import IppClient.Base.Text

/-!
# Lines

The lines of a list of characters or of bytes, as `str::lines` cuts them: a line ends at an `nl`,
a `cr` before it is no part of the line, and what follows the last `nl` is a line of its own unless
it is empty.

* `split_append`, `split_last`: the lines of a list, by its first `nl`.
* `lines_induction`: a list is its last line, or a line, an `nl` and a list.
* `split_flatMap`: **cutting commutes with an encoding that keeps `nl` and `cr`** (`Encodes`).
* `utf8_encodes`: UTF-8 is one, so that a text may be cut before or after it is decoded.
-/

namespace Base.Lines

section Lines

variable {α : Type} [DecidableEq α]

/-- A line without the `cr` before its `nl`. -/
def chomp (cr : α) (line : List α) : List α :=
  if line.getLast? = some cr then line.dropLast else line

/-- The lines of a list: `acc` is the current line, reversed. -/
def splitAux (nl cr : α) : List α → List α → List (List α)
  | [], [] => []
  | acc, [] => [acc.reverse]
  | acc, x :: xs =>
    if x = nl then chomp cr acc.reverse :: splitAux nl cr [] xs else splitAux nl cr (x :: acc) xs

/-- The lines of a list. -/
def split (nl cr : α) (xs : List α) : List (List α) := splitAux nl cr [] xs

variable {nl cr : α} {line rest acc : List α}

theorem splitAux_append (h : nl ∉ line) :
    splitAux nl cr acc (line ++ nl :: rest) =
      chomp cr (acc.reverse ++ line) :: split nl cr rest := by
  induction line generalizing acc with
  | nil => simp [splitAux, split]
  | cons x line ih =>
    have hx : x ≠ nl := fun he => h (he ▸ List.mem_cons_self)
    have hl : nl ∉ line := fun hm => h (List.mem_cons_of_mem x hm)
    rw [List.cons_append, splitAux, if_neg hx, ih hl]
    simp

/-- The first line ends at the first `nl`. -/
theorem split_append (h : nl ∉ line) :
    split nl cr (line ++ nl :: rest) = chomp cr line :: split nl cr rest := splitAux_append h

theorem splitAux_last (h : nl ∉ line) (hne : acc.reverse ++ line ≠ []) :
    splitAux nl cr acc line = [acc.reverse ++ line] := by
  induction line generalizing acc with
  | nil =>
    cases acc with
    | nil => exact absurd rfl hne
    | cons a acc => simp [splitAux]
  | cons x line ih =>
    have hx : x ≠ nl := fun he => h (he ▸ List.mem_cons_self)
    have hl : nl ∉ line := fun hm => h (List.mem_cons_of_mem x hm)
    rw [splitAux, if_neg hx, ih hl (by simp)]
    simp

@[simp] theorem split_nil : split nl cr [] = [] := rfl

/-- Without an `nl` there is one line. -/
theorem split_last (h : nl ∉ line) (hne : line ≠ []) : split nl cr line = [line] :=
  splitAux_last h hne

/-- A list is a line without its end, or a line, its end and a list. -/
theorem lines_induction {P : List α → Prop} (nl : α) (last : ∀ line, nl ∉ line → P line)
    (cons : ∀ line rest, nl ∉ line → P rest → P (line ++ nl :: rest)) (xs : List α) : P xs := by
  generalize hn : xs.length = n
  induction n using Nat.strongRecOn generalizing xs with
  | ind n ih =>
    by_cases h : nl ∈ xs
    · obtain ⟨line, rest, rfl, hl⟩ := List.eq_append_cons_of_mem h
      refine cons line rest hl (ih rest.length ?_ rest rfl)
      rw [← hn, List.length_append, List.length_cons]
      omega
    · exact last xs h

/-- The lines before an end of line and those after it. -/
theorem split_append_nl (a b : List α) :
    split nl cr (a ++ nl :: b) = split nl cr (a ++ [nl]) ++ split nl cr b := by
  induction a using lines_induction nl with
  | last line h => rw [split_append h, split_append h, split_nil, List.singleton_append]
  | cons line rest h ih =>
    rw [List.append_assoc, List.cons_append, split_append h, ih, List.append_assoc,
      List.cons_append, split_append h, List.cons_append]

end Lines

/-! ## Encodings -/

section Encodings

variable {α β : Type} [DecidableEq α] [DecidableEq β] {enc : α → List β} {nl cr : α} {nl' cr' : β}

/-- The encoding of the elements of a list keeps the ends of its lines. -/
structure Encodes (enc : α → List β) (nl cr : α) (nl' cr' : β) : Prop where
  ne_nil : ∀ a, enc a ≠ []
  enc_nl : enc nl = [nl']
  enc_cr : enc cr = [cr']
  eq_nl : ∀ a, nl' ∈ enc a → a = nl
  eq_cr : ∀ a, cr' ∈ enc a → a = cr

namespace Encodes

variable (h : Encodes enc nl cr nl' cr') {line : List α}

include h

omit [DecidableEq α] [DecidableEq β] in
theorem flatMap_eq_nil : line.flatMap enc = [] ↔ line = [] := by
  cases line with
  | nil => simp
  | cons a line => simp [h.ne_nil a]

omit [DecidableEq α] [DecidableEq β] in
theorem nl_not_mem (hl : nl ∉ line) : nl' ∉ line.flatMap enc := by
  intro hm
  obtain ⟨a, ha, hna⟩ := List.mem_flatMap.mp hm
  exact hl (h.eq_nl a hna ▸ ha)

theorem chomp_flatMap : chomp cr' (line.flatMap enc) = (chomp cr line).flatMap enc := by
  rcases List.eq_nil_or_concat line with rfl | ⟨init, a, rfl⟩
  · simp [chomp]
  · rw [List.concat_eq_append]
    have hlast : ((init ++ [a]).flatMap enc).getLast? = (enc a).getLast? := by
      rw [List.flatMap_append, List.flatMap_singleton,
        List.getLast?_append_of_ne_nil _ (h.ne_nil a)]
    by_cases ha : a = cr
    · have hc : ((init ++ [a]).flatMap enc).getLast? = some cr' := by
        rw [hlast, ha, h.enc_cr, List.getLast?_singleton]
      rw [chomp, if_pos hc, chomp, if_pos (by rw [List.getLast?_concat, ha]), List.dropLast_concat,
        List.flatMap_append, List.flatMap_singleton, ha, h.enc_cr, List.dropLast_concat]
    · have hc : ((init ++ [a]).flatMap enc).getLast? ≠ some cr' := by
        rw [hlast]
        exact fun hc => ha (h.eq_cr a (List.mem_of_getLast? hc))
      have hc' : (init ++ [a]).getLast? ≠ some cr := by
        rw [List.getLast?_concat]
        exact fun hc => ha (Option.some.inj hc)
      rw [chomp, if_neg hc, chomp, if_neg hc']

/-- **The lines of what is encoded are the encoded lines.** -/
theorem split_flatMap (xs : List α) :
    split nl' cr' (xs.flatMap enc) = (split nl cr xs).map fun line => line.flatMap enc := by
  induction xs using lines_induction nl with
  | last line hl =>
    by_cases hne : line = []
    · subst hne
      rfl
    · rw [split_last hl hne, split_last (h.nl_not_mem hl) (by rwa [ne_eq, h.flatMap_eq_nil])]
      rfl
  | cons line rest hl ih =>
    have hcut : (line ++ nl :: rest).flatMap enc = line.flatMap enc ++ nl' :: rest.flatMap enc := by
      rw [List.flatMap_append, List.flatMap_cons, h.enc_nl, List.singleton_append]
    rw [hcut, split_append (h.nl_not_mem hl), split_append hl, ih, h.chomp_flatMap, List.map_cons]

end Encodes

end Encodings

/-! ## Texts and their bytes -/

/-- A byte below `0x80` in the encoding of a character is that character. -/
theorem eq_of_mem_utf8EncodeChar {b : UInt8} {c : Char} (hb : b.toNat < 128)
    (h : b ∈ String.utf8EncodeChar c) : c.toNat = b.toNat := by
  have hc : c.toNat = c.val.toNat := rfl
  have hn : ∀ n, b = UInt8.ofNat n → b.toNat = n % 256 := by
    rintro n rfl
    exact UInt8.toNat_ofNat
  -- Every byte of a longer encoding has its highest bit set.
  have hlarge : ∀ n, b = UInt8.ofNat n → 128 ≤ n → n < 256 → c.toNat = b.toNat := by
    intro n he hlo hhi
    have := hn n he
    omega
  unfold String.utf8EncodeChar at h
  extract_lets v at h
  split at h
  · have := hn _ (List.mem_singleton.mp h)
    omega
  · split at h
    · simp only [List.mem_cons, List.not_mem_nil, or_false] at h
      rcases h with h | h <;> exact hlarge _ h (by omega) (by omega)
    · split at h
      · simp only [List.mem_cons, List.not_mem_nil, or_false] at h
        rcases h with h | h | h <;> exact hlarge _ h (by omega) (by omega)
      · simp only [List.mem_cons, List.not_mem_nil, or_false] at h
        rcases h with h | h | h | h <;> exact hlarge _ h (by omega) (by omega)

/-- UTF-8 keeps the ends of lines. -/
theorem utf8_encodes : Encodes String.utf8EncodeChar '\n' '\r' 10 13 where
  ne_nil _ := String.utf8EncodeChar_ne_nil
  enc_nl := by decide
  enc_cr := by decide
  eq_nl c h := by
    have := eq_of_mem_utf8EncodeChar (by decide) h
    exact Char.toNat_inj.mp this
  eq_cr c h := by
    have := eq_of_mem_utf8EncodeChar (by decide) h
    exact Char.toNat_inj.mp this

/-- `str::lines` cuts at the ends of lines. -/
theorem linesAux_eq_splitAux (acc cs : List Char) :
    Text.linesAux acc cs = splitAux '\n' '\r' acc cs := by
  induction cs generalizing acc with
  | nil => cases acc <;> rfl
  | cons c cs ih =>
    by_cases hc : c = '\n'
    · subst hc
      have hchomp : (if acc.head? = some '\r' then acc.tail else acc).reverse =
          chomp '\r' acc.reverse := by
        rw [chomp, List.getLast?_reverse, List.dropLast_reverse]
        split <;> rfl
      rw [splitAux, if_pos rfl, ← ih, ← hchomp]
      cases acc <;> rfl
    · rw [splitAux, if_neg hc, ← ih]
      simp only [Text.linesAux]

/-- The bytes of a text. -/
def encode (text : List Char) : List UInt8 := text.flatMap String.utf8EncodeChar

/-- The text of some bytes, if they are UTF-8. -/
def decode (bytes : List UInt8) : Option String := String.fromUTF8? bytes.toByteArray

theorem fromUTF8?_toByteArray (s : String) : String.fromUTF8? s.toByteArray = some s :=
  dif_pos s.isValidUTF8

@[simp] theorem decode_encode (text : List Char) : decode (encode text) = some (.ofList text) :=
  fromUTF8?_toByteArray (.ofList text)

/-- What a file decodes to is encoded in its bytes. -/
theorem fromUTF8?_eq_some {file : ByteArray} {s : String} :
    String.fromUTF8? file = some s ↔ file.data.toList = encode s.toList := by
  have hbytes : s.toByteArray.data.toList = encode s.toList := by
    rw [← String.utf8Encode_toList, List.utf8Encode, List.toList_data_toByteArray, encode]
  rw [← hbytes, Array.toList_inj]
  constructor
  · intro h
    unfold String.fromUTF8? at h
    split at h
    · cases h
      rfl
    · cases h
  · intro h
    have hf : file = s.toByteArray := ByteArray.ext h
    rw [hf, fromUTF8?_toByteArray]

/-- The lines of a text's bytes are the bytes of its lines. -/
theorem split_encode (text : List Char) :
    split 10 13 (encode text) = (split '\n' '\r' text).map encode :=
  utf8_encodes.split_flatMap text

/-- `str::lines`, by the cut of its characters. -/
theorem lines_eq (s : String) : Text.lines s = (split '\n' '\r' s.toList).map String.ofList := by
  rw [Text.lines, linesAux_eq_splitAux, split]

end Base.Lines
