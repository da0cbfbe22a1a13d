import Mathlib.Tactic.Common

/-!
# Percent-encoding of a path segment (RFC 3986)

An encoder of path segments leaves the unreserved characters as they are, may leave the others that
a segment can hold, and writes every other character as the bytes of its UTF-8 form, each as `%` and
two hexadecimal digits. `SegmentEncoding` is such an encoder, by the characters it leaves.

* `encode_ne_empty`, `slash_not_mem_encode`: an encoded text is one segment.
* `encode_eq_self_iff`: **a text is its own encoding exactly when all its characters are left.**

Of what reads a segment no more is fixed than that only a `%` begins anything to decode, and that
decoding does not lengthen a text: `SegmentReading`.
-/

namespace Base.Percent

/-- The unreserved characters. -/
def isUnreserved (c : Char) : Bool :=
  c.isAlphanum || c == '-' || c == '.' || c == '_' || c == '~'

/-- The other characters that a segment can hold: the sub-delimiters, `:` and `@`. -/
def isSegmentDelimiter (c : Char) : Bool :=
  ['!', '$', '&', '\'', '(', ')', '*', '+', ',', ';', '=', ':', '@'].contains c

/-- An encoder of path segments. -/
structure SegmentEncoding where
  keeps : Char → Bool
  unreserved : ∀ c, isUnreserved c = true → keeps c = true
  allowed : ∀ c, keeps c = true → isUnreserved c = true ∨ isSegmentDelimiter c = true

/-- The encoder that leaves the unreserved characters only. -/
def SegmentEncoding.strict : SegmentEncoding where
  keeps := isUnreserved
  unreserved _ h := h
  allowed _ h := .inl h

/-- What a segment is read as: what is encoded in it may be decoded. -/
structure SegmentReading where
  read : String → String
  verbatim : ∀ s, '%' ∉ s.toList → read s = s
  length_le : ∀ s, (read s).length ≤ s.length

/-- The segment itself. -/
def SegmentReading.identity : SegmentReading where
  read s := s
  verbatim _ _ := rfl
  length_le _ := Nat.le_refl _

/-- A hexadecimal digit. -/
def hexDigit (n : Nat) : Char := Char.ofNat (if n < 10 then 48 + n else 55 + n)

/-- A byte as `%` and two digits. -/
def percentByte (b : UInt8) : List Char := ['%', hexDigit (b.toNat / 16), hexDigit (b.toNat % 16)]

namespace SegmentEncoding

variable (e : SegmentEncoding)

/-- The encoding of a character. -/
def encodeChar (c : Char) : List Char :=
  if e.keeps c then [c] else (String.utf8EncodeChar c).flatMap percentByte

/-- The encoding of a text. -/
def encode (s : String) : String := String.ofList (s.toList.flatMap e.encodeChar)

variable {e} {c : Char}

theorem encodeChar_kept (h : e.keeps c = true) : e.encodeChar c = [c] := if_pos h

/-- An encoded character is three characters for each of its bytes. -/
theorem length_encodeChar (h : e.keeps c = false) :
    (e.encodeChar c).length = 3 * c.utf8Size := by
  rw [encodeChar, h, if_neg Bool.false_ne_true, List.length_flatMap]
  have hmap : (String.utf8EncodeChar c).map (fun b => (percentByte b).length) =
      List.replicate c.utf8Size 3 := by
    rw [List.eq_replicate_iff]
    refine ⟨by simp, fun n hn => ?_⟩
    obtain ⟨b, -, rfl⟩ := List.mem_map.mp hn
    rfl
  rw [hmap, List.sum_replicate_nat, Nat.mul_comm]

theorem encodeChar_ne_nil (c : Char) : e.encodeChar c ≠ [] := by
  cases h : e.keeps c with
  | true => rw [encodeChar_kept h]; exact List.cons_ne_nil _ _
  | false =>
    have hpos := c.utf8Size_pos
    intro hn
    have hl := length_encodeChar h
    rw [hn, List.length_nil] at hl
    omega

/-- Texts that are not empty have encodings that are not. -/
theorem encode_ne_empty {s : String} (h : s ≠ "") : e.encode s ≠ "" := by
  intro he
  have hl : s.toList.flatMap e.encodeChar = [] := by
    rw [← String.toList_ofList (l := s.toList.flatMap e.encodeChar)]
    exact congrArg String.toList he
  cases hs : s.toList with
  | nil => exact h (String.toList_eq_nil_iff.mp hs)
  | cons c cs =>
    rw [hs, List.flatMap_cons, List.append_eq_nil_iff] at hl
    exact encodeChar_ne_nil c hl.1

theorem hexDigit_ne_slash : ∀ n < 16, hexDigit n ≠ '/' := by decide

theorem slash_not_mem_percentByte (b : UInt8) : '/' ∉ percentByte b := by
  have hb : b.toNat < 256 := b.toNat_lt
  have hhi := hexDigit_ne_slash (b.toNat / 16) (by omega)
  have hlo := hexDigit_ne_slash (b.toNat % 16) (by omega)
  simp only [percentByte, List.mem_cons, List.not_mem_nil, or_false, not_or]
  exact ⟨by decide, hhi.symm, hlo.symm⟩

theorem not_keeps_slash : e.keeps '/' = false := by
  rw [← Bool.not_eq_true]
  intro h
  obtain h | h := e.allowed _ h
  · exact absurd h (by decide)
  · exact absurd h (by decide)

/-- An encoded text is one segment. -/
theorem slash_not_mem_encode (s : String) : '/' ∉ (e.encode s).toList := by
  rw [encode, String.toList_ofList, List.mem_flatMap]
  rintro ⟨c, -, hc⟩
  cases hk : e.keeps c with
  | true =>
    rw [encodeChar_kept hk, List.mem_singleton] at hc
    rw [← hc, not_keeps_slash] at hk
    cases hk
  | false =>
    rw [encodeChar, hk, if_neg Bool.false_ne_true, List.mem_flatMap] at hc
    obtain ⟨b, -, hb⟩ := hc
    exact slash_not_mem_percentByte b hb

theorem length_le_encode (cs : List Char) : cs.length ≤ (cs.flatMap e.encodeChar).length := by
  induction cs with
  | nil => exact Nat.le_refl _
  | cons c cs ih =>
    have hpos : 0 < (e.encodeChar c).length := List.length_pos_iff.mpr (encodeChar_ne_nil c)
    rw [List.flatMap_cons, List.length_append, List.length_cons]
    omega

/-- **A text is its own encoding exactly when all its characters are left as they are.** -/
theorem encode_eq_self_iff {s : String} :
    e.encode s = s ↔ ∀ c ∈ s.toList, e.keeps c = true := by
  have hlist : e.encode s = s ↔ s.toList.flatMap e.encodeChar = s.toList := by
    rw [encode, ← String.toList_inj, String.toList_ofList]
  rw [hlist]
  generalize s.toList = cs
  induction cs with
  | nil => simp
  | cons c cs ih =>
    rw [List.flatMap_cons, List.forall_mem_cons]
    cases hk : e.keeps c with
    | true =>
      rw [encodeChar_kept hk, List.singleton_append, List.cons.injEq]
      simp only [true_and]
      exact ih
    | false =>
      -- The encoding is longer than the text.
      have hl := length_encodeChar hk
      have hpos := c.utf8Size_pos
      have hrest := length_le_encode (e := e) cs
      refine iff_of_false (fun h => ?_) (by simp)
      have := congrArg List.length h
      rw [List.length_append, List.length_cons] at this
      omega

end SegmentEncoding

example : SegmentEncoding.strict.encode "HP-1" = "HP-1" := by decide

example : SegmentEncoding.strict.encode "Büro 1%" = "B%C3%BCro%201%25" := by decide

end Base.Percent
