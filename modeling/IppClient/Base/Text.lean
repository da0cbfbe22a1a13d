import Mathlib.Tactic.Common
import Mathlib.Data.List.DropRight
import Mathlib.Data.List.Infix

/-!
# Text operations

The `str` operations of the modelled program, on Lean's `String` through its list of characters,
so that they are structurally recursive and evaluate on closed text. The doc comment of each
names the Rust operation and says what it does where the two libraries could differ.

* `afterLast_append`, `rsplitOnce_eq_some`: a text is cut at the last of a character.
* `beforeFirst_append_of_mem`, `afterLast_append_of_mem`: the cut of a text of two parts.
* `parseU32_toString`: a number below `2 ^ 32` is read back from its decimal text.
-/

namespace Base.Text

/-- `char::is_whitespace`: the Unicode property `White_Space`. -/
def isWhitespace (c : Char) : Bool :=
  let n := c.toNat
  (0x09 ≤ n && n ≤ 0x0D) || n == 0x20 || n == 0x85 || n == 0xA0 || n == 0x1680 ||
    (0x2000 ≤ n && n ≤ 0x200A) || n == 0x2028 || n == 0x2029 || n == 0x202F || n == 0x205F ||
    n == 0x3000

/-- `str::strip_prefix`. -/
def stripStart (s start : String) : Option String :=
  (start.toList.isPrefixOf? s.toList).map String.ofList

/-- `str::strip_suffix`. -/
def stripEnd (s ending : String) : Option String :=
  (ending.toList.isSuffixOf? s.toList).map String.ofList

/-- `str::contains` of a string pattern. -/
def contains (s pattern : String) : Bool := decide (pattern.toList <:+: s.toList)

/-- `str::trim_end_matches` of a character. -/
def trimEndMatches (s : String) (c : Char) : String := String.ofList (s.toList.rdropWhile (· == c))

/-- `s.split(c).next()`, which is never `None`: the text before the first `c`, or all of it. -/
def beforeFirst (s : String) (c : Char) : String := String.ofList (s.toList.takeWhile (· != c))

/-- `s.rsplit(c).next()`, which is never `None`: the text after the last `c`, or all of it. -/
def afterLast (s : String) (c : Char) : String := String.ofList (s.toList.rtakeWhile (· != c))

/-- `str::rsplit_once`: the texts before and after the last `c`. -/
def rsplitOnce (s : String) (c : Char) : Option (String × String) :=
  if c ∈ s.toList then
    some (String.ofList (s.toList.rdropWhile (· != c)).dropLast, afterLast s c)
  else none

/-- `str::split_once`: the texts before and after the first `c`. -/
def splitOnce (s : String) (c : Char) : Option (String × String) :=
  match s.toList.dropWhile (· != c) with
  | [] => none
  | _ :: after => some (beforeFirst s c, String.ofList after)

/-- `s.split_whitespace().next()`: the first maximal run of characters that are not white space. -/
def firstWord (s : String) : Option String :=
  match (s.toList.dropWhile isWhitespace).takeWhile fun c => !isWhitespace c with
  | [] => none
  | w => some (String.ofList w)

/-- `str::to_ascii_lowercase`. -/
def lower (s : String) : String := String.ofList (s.toList.map Char.toLower)

/-- The lines of a text: `acc` is the current line, reversed. A line ends at `\n` or `\r\n`; a
`\r` elsewhere belongs to its line; the last line needs no terminator. -/
def linesAux : List Char → List Char → List (List Char)
  | [], [] => []
  | acc, [] => [acc.reverse]
  | acc, '\n' :: cs => (if acc.head? = some '\r' then acc.tail else acc).reverse :: linesAux [] cs
  | acc, c :: cs => linesAux (c :: acc) cs

/-- `str::lines`. -/
def lines (s : String) : List String := (linesAux [] s.toList).map String.ofList

/-- The value of a list of ASCII digits, most significant first. -/
def digitsValue (cs : List Char) : Option Nat :=
  cs.foldlM (fun n c => if c.isDigit then some (n * 10 + (c.toNat - '0'.toNat)) else none) 0

/-- `str::parse::<u32>`: an optional `+`, then one or more ASCII digits (leading zeros allowed),
with a value below `2 ^ 32`. -/
def parseU32 (s : String) : Option Nat :=
  let digits := match s.toList with
    | '+' :: ds => ds
    | ds => ds
  if digits = [] then none
  else (digitsValue digits).bind fun n => if n < UInt32.size then some n else none

example : lines "a\r\nb\n\nc" = ["a", "b", "", "c"] := by decide

example : rsplitOnce "device-uri:0" ':' = some ("device-uri", "0") := by decide

example : parseU32 "+007" = some 7 ∧ parseU32 "4294967296" = none ∧ parseU32 "+" = none := by
  decide

/-- No character of a list without `c` is `c`. -/
theorem bne_of_not_mem {c : Char} {l : List Char} (h : c ∉ l) : ∀ x ∈ l, (x != c) = true := by
  intro x hx
  rw [bne_iff_ne]
  rintro rfl
  exact h hx

/-! ## Cutting at the last character -/

section Cut

variable {c : Char} {a b : List Char}

theorem rtakeWhile_append_cons (h : c ∉ b) : (a ++ c :: b).rtakeWhile (· != c) = b := by
  have hb : c ∉ b.reverse := mt List.mem_reverse.mp h
  have hr : (a ++ c :: b).reverse = b.reverse ++ c :: a.reverse := by simp
  rw [List.rtakeWhile, hr, List.takeWhile_append_of_pos (bne_of_not_mem hb),
    List.takeWhile_cons_of_neg (by simp), List.append_nil, List.reverse_reverse]

theorem rdropWhile_append_cons (h : c ∉ b) : (a ++ c :: b).rdropWhile (· != c) = a ++ [c] := by
  have hcut : (a ++ c :: b).rdropWhile (· != c) ++ (a ++ c :: b).rtakeWhile (· != c) =
      a ++ c :: b := List.rdropWhile_append_rtakeWhile
  rw [rtakeWhile_append_cons h] at hcut
  have he : (a ++ c :: b).rdropWhile (· != c) ++ b = (a ++ [c]) ++ b := by
    rw [hcut, List.append_assoc]
    rfl
  exact List.append_cancel_right he

/-- What follows the last `c`. -/
theorem afterLast_append (h : c ∉ b) : afterLast (String.ofList (a ++ c :: b)) c = .ofList b := by
  rw [afterLast, String.toList_ofList, rtakeWhile_append_cons h]

/-- A text without `c` has no part before it. -/
theorem afterLast_of_not_mem {s : String} (h : c ∉ s.toList) : afterLast s c = s := by
  have hs : s.toList.rtakeWhile (· != c) = s.toList :=
    List.rtakeWhile_eq_self_iff.mpr (bne_of_not_mem h)
  rw [afterLast, hs, String.ofList_toList]

/-- The part after the last `c` is no longer than the text. -/
theorem utf8ByteSize_afterLast_le (s : String) (c : Char) :
    (afterLast s c).utf8ByteSize ≤ s.utf8ByteSize := by
  obtain ⟨front, hfront⟩ := List.rtakeWhile_suffix (· != c) s.toList
  have hs : s = String.ofList front ++ afterLast s c := by
    rw [← String.toList_inj, String.toList_append, String.toList_ofList, afterLast,
      String.toList_ofList, hfront]
  calc (afterLast s c).utf8ByteSize
      ≤ (String.ofList front).utf8ByteSize + (afterLast s c).utf8ByteSize := Nat.le_add_left _ _
    _ = s.utf8ByteSize := by rw [← String.utf8ByteSize_append, ← hs]

theorem rsplitOnce_append (h : c ∉ b) :
    rsplitOnce (String.ofList (a ++ c :: b)) c = some (.ofList a, .ofList b) := by
  rw [rsplitOnce, if_pos (by simp), afterLast_append h, String.toList_ofList,
    rdropWhile_append_cons h, List.dropLast_concat]

/-- **`rsplit_once`** cuts a text at its last `c`, and drops that one. -/
theorem rsplitOnce_eq_some {s before after : String} :
    rsplitOnce s c = some (before, after) ↔
      s = before ++ c.toString ++ after ∧ c ∉ after.toList := by
  constructor
  · intro h
    have hc : c ∈ s.toList := by
      by_contra hc
      rw [rsplitOnce, if_neg hc] at h
      cases h
    -- The last `c` of the text is the first of its reverse.
    obtain ⟨b, a, hs, hb⟩ := List.eq_append_cons_of_mem (List.mem_reverse.mpr hc)
    have hs' : s = String.ofList (a.reverse ++ c :: b.reverse) := by
      rw [← String.toList_inj, String.toList_ofList, ← List.reverse_reverse s.toList, hs]
      simp
    have hb' : c ∉ b.reverse := fun hm => hb (List.mem_reverse.mp hm)
    rw [hs', rsplitOnce_append hb'] at h
    cases h
    refine ⟨?_, by rwa [String.toList_ofList]⟩
    rw [hs', ← String.toList_inj]
    simp
  · rintro ⟨rfl, h⟩
    have hs : before ++ c.toString ++ after =
        String.ofList (before.toList ++ c :: after.toList) := by
      rw [← String.toList_inj]
      simp
    rw [hs, rsplitOnce_append h, String.ofList_toList, String.ofList_toList]

end Cut

/-! ## The parts of a text -/

section Parts

variable {c d : Char} {a b s : String}

/-- The part before the first `c` has none. -/
theorem not_mem_beforeFirst : c ∉ (beforeFirst s c).toList := by
  intro h
  rw [beforeFirst, String.toList_ofList] at h
  have := List.mem_takeWhile_imp h
  simp at this

theorem takeWhile_of_not_mem {l : List Char} (h : c ∉ l) : l.takeWhile (· != c) = l :=
  List.takeWhile_eq_self_iff.mpr (bne_of_not_mem h)

theorem beforeFirst_of_not_mem (h : c ∉ s.toList) : beforeFirst s c = s := by
  rw [beforeFirst, takeWhile_of_not_mem h, String.ofList_toList]

/-- The part before a `c` that is there is shorter. -/
theorem length_beforeFirst_lt (h : c ∈ s.toList) : (beforeFirst s c).length < s.length := by
  have hle : (s.toList.takeWhile (· != c)).length ≤ s.toList.length :=
    (List.takeWhile_sublist _).length_le
  rw [← String.length_toList, ← String.length_toList, beforeFirst, String.toList_ofList]
  refine Nat.lt_of_le_of_ne hle fun he => ?_
  have hall := (List.takeWhile_sublist _).eq_of_length he
  exact absurd (List.mem_takeWhile_imp (hall.symm ▸ h)) (by simp)

theorem mem_of_mem_beforeFirst (h : d ∈ (beforeFirst s c).toList) : d ∈ s.toList := by
  rw [beforeFirst, String.toList_ofList] at h
  exact (List.takeWhile_prefix _).mem h

/-- The first `c` of a text that has one stays the first when more is appended. -/
theorem beforeFirst_append_of_mem (h : c ∈ a.toList) :
    beforeFirst (a ++ b) c = beforeFirst a c := by
  obtain ⟨x, y, ha, hx⟩ := List.eq_append_cons_of_mem h
  have hp := bne_of_not_mem hx
  rw [beforeFirst, beforeFirst, String.toList_append, ha, List.append_assoc, List.cons_append,
    List.takeWhile_append_of_pos hp, List.takeWhile_append_of_pos hp,
    List.takeWhile_cons_of_neg (by simp), List.takeWhile_cons_of_neg (by simp)]

theorem beforeFirst_append_of_not_mem (h : c ∉ a.toList) :
    beforeFirst (a ++ b) c = a ++ beforeFirst b c := by
  rw [beforeFirst, beforeFirst, String.toList_append,
    List.takeWhile_append_of_pos (bne_of_not_mem h), ← String.toList_inj, String.toList_append,
    String.toList_ofList, String.toList_ofList]

/-- **`split_once`** cuts a text at its first `c`, and drops that one. -/
theorem splitOnce_eq_some {s before after : String} :
    splitOnce s c = some (before, after) ↔
      s = before ++ c.toString ++ after ∧ c ∉ before.toList := by
  have hcut : s.toList.takeWhile (· != c) ++ s.toList.dropWhile (· != c) = s.toList :=
    List.takeWhile_append_dropWhile
  constructor
  · intro h
    unfold splitOnce at h
    split at h
    · cases h
    · rename_i x rest hrest
      have hx : x = c := by
        have hne : s.toList.dropWhile (· != c) ≠ [] := by simp [hrest]
        have := List.head_dropWhile_not (· != c) hne
        simpa [hrest] using this
      cases h
      refine ⟨?_, not_mem_beforeFirst⟩
      rw [hrest, hx] at hcut
      rw [← String.toList_inj, ← hcut]
      simp [beforeFirst]
  · rintro ⟨rfl, h⟩
    have hs : (before ++ c.toString ++ after).toList = before.toList ++ c :: after.toList := by
      simp
    have hd : (before ++ c.toString ++ after).toList.dropWhile (· != c) = c :: after.toList := by
      rw [hs, List.dropWhile_append_of_pos (bne_of_not_mem h),
        List.dropWhile_cons_of_neg (by simp)]
    have hb : beforeFirst (before ++ c.toString ++ after) c = before := by
      rw [String.append_assoc, beforeFirst_append_of_not_mem h, beforeFirst, String.toList_append]
      simp
    simp only [splitOnce, hd, hb, String.ofList_toList]

/-- The part after the last `c` has none. -/
theorem not_mem_afterLast : c ∉ (afterLast s c).toList := by
  intro h
  rw [afterLast, String.toList_ofList] at h
  have := List.mem_rtakeWhile_imp h
  simp at this

/-- The last `c` of a text is that of its second part, if that has one. -/
theorem afterLast_append_of_mem (h : c ∈ b.toList) : afterLast (a ++ b) c = afterLast b c := by
  obtain ⟨x, y, hb, hx⟩ := List.eq_append_cons_of_mem (List.mem_reverse.mpr h)
  have hb' : b.toList = y.reverse ++ c :: x.reverse := by
    rw [← List.reverse_reverse b.toList, hb]
    simp
  have hx' : c ∉ x.reverse := fun hm => hx (List.mem_reverse.mp hm)
  rw [afterLast, afterLast, String.toList_append, hb', ← List.append_assoc,
    rtakeWhile_append_cons hx', rtakeWhile_append_cons hx']

theorem afterLast_cons : afterLast (c.toString ++ s) c = afterLast s c := by
  by_cases h : c ∈ s.toList
  · exact afterLast_append_of_mem h
  · have hs : c.toString ++ s = String.ofList ([] ++ c :: s.toList) := by
      rw [← String.toList_inj]
      simp
    rw [hs, afterLast_append h, String.ofList_toList, afterLast_of_not_mem h]

/-- What `trim_end_matches` drops. -/
theorem eq_trimEndMatches_append (s : String) (c : Char) :
    ∃ dropped, s = trimEndMatches s c ++ dropped ∧ ∀ d ∈ dropped.toList, d = c := by
  refine ⟨.ofList (s.toList.rtakeWhile (· == c)), ?_, fun d hd => ?_⟩
  · rw [trimEndMatches, ← String.toList_inj, String.toList_append, String.toList_ofList,
      String.toList_ofList, List.rdropWhile_append_rtakeWhile]
  · rw [String.toList_ofList] at hd
    have := List.mem_rtakeWhile_imp hd
    simpa using this

end Parts

/-- A text is what stands before its first `c` and the rest, which the `c` starts. -/
theorem exists_eq_beforeFirst_append (s : String) (c : Char) :
    ∃ rest, s = beforeFirst s c ++ rest ∧ ∀ d, rest.toList.head? = some d → d = c := by
  refine ⟨.ofList (s.toList.dropWhile (· != c)), ?_, fun d hd => ?_⟩
  · rw [beforeFirst, ← String.toList_inj, String.toList_append, String.toList_ofList,
      String.toList_ofList, List.takeWhile_append_dropWhile]
  · rw [String.toList_ofList] at hd
    have := List.head?_dropWhile_not (· != c) s.toList
    rw [hd] at this
    simpa using this

/-- A run of characters that satisfy `p` and what follows it, which starts with none. -/
theorem takeWhile_append_of_head {p : Char → Bool} {l r : List Char} (hl : ∀ c ∈ l, p c = true)
    (hr : ∀ c, r.head? = some c → p c = false) : (l ++ r).takeWhile p = l := by
  rw [List.takeWhile_append_of_pos hl]
  cases r with
  | nil => simp
  | cons c r => rw [List.takeWhile_cons_of_neg (by simp [hr c rfl]), List.append_nil]

theorem dropWhile_append_of_head {p : Char → Bool} {l r : List Char} (hl : ∀ c ∈ l, p c = true)
    (hr : ∀ c, r.head? = some c → p c = false) : (l ++ r).dropWhile p = r := by
  rw [List.dropWhile_append_of_pos hl]
  cases r with
  | nil => simp
  | cons c r => rw [List.dropWhile_cons_of_neg (by simp [hr c rfl])]

/-- **The first word** stands after blanks, has none, and ends where the text does or at one. -/
theorem firstWord_eq_some {s word : String} :
    firstWord s = some word ↔
      ∃ blanks tail, s = blanks ++ word ++ tail ∧ (∀ c ∈ blanks.toList, isWhitespace c = true) ∧
        (∀ c ∈ word.toList, isWhitespace c = false) ∧ word ≠ "" ∧
        ∀ c, tail.toList.head? = some c → isWhitespace c = true := by
  constructor
  · intro h
    unfold firstWord at h
    split at h
    · cases h
    · rename_i hne
      cases h
      refine ⟨.ofList (s.toList.takeWhile isWhitespace),
        .ofList ((s.toList.dropWhile isWhitespace).dropWhile fun c => !isWhitespace c),
        ?_, ?_, ?_, ?_, ?_⟩
      · simp only [← String.toList_inj, String.toList_append, String.toList_ofList,
          List.append_assoc, List.takeWhile_append_dropWhile]
      · intro c hc
        rw [String.toList_ofList] at hc
        exact List.mem_takeWhile_imp hc
      · intro c hc
        rw [String.toList_ofList] at hc
        simpa using List.mem_takeWhile_imp hc
      · rw [ne_eq, ← String.toList_inj, String.toList_ofList]
        exact hne
      · intro c hc
        rw [String.toList_ofList] at hc
        have := List.head?_dropWhile_not (fun c => !isWhitespace c)
          (s.toList.dropWhile isWhitespace)
        rw [hc] at this
        simpa using this
  · rintro ⟨blanks, tail, rfl, hb, hw, hne, ht⟩
    have hl : word.toList ≠ [] := by simpa using hne
    have hcut : (blanks ++ word ++ tail).toList =
        blanks.toList ++ (word.toList ++ tail.toList) := by simp
    have hhead : ∀ c, (word.toList ++ tail.toList).head? = some c → isWhitespace c = false := by
      intro c hc
      rw [List.head?_append_of_ne_nil _ hl] at hc
      exact hw c (List.mem_of_head? hc)
    have hdrop := dropWhile_append_of_head hb hhead
    have htake : (word.toList ++ tail.toList).takeWhile (fun c => !isWhitespace c) =
        word.toList :=
      takeWhile_append_of_head (fun c hc => by simp [hw c hc]) (fun c hc => by simp [ht c hc])
    rw [firstWord, hcut, hdrop, htake]
    split
    · rename_i he
      exact absurd he hl
    · rw [String.ofList_toList]

/-! ## The start and the end of a text -/

theorem stripStart_eq_some {s start rest : String} :
    stripStart s start = some rest ↔ s = start ++ rest := by
  rw [stripStart, Option.map_eq_some_iff]
  constructor
  · rintro ⟨cs, hcs, rfl⟩
    rw [← String.toList_inj, ← List.isPrefixOf?_eq_some_iff_append_eq.mp hcs]
    simp
  · rintro rfl
    refine ⟨rest.toList, List.isPrefixOf?_eq_some_iff_append_eq.mpr ?_, String.ofList_toList⟩
    rw [String.toList_append]

theorem stripEnd_eq_some {s ending rest : String} :
    stripEnd s ending = some rest ↔ s = rest ++ ending := by
  rw [stripEnd, Option.map_eq_some_iff]
  constructor
  · rintro ⟨cs, hcs, rfl⟩
    rw [← String.toList_inj, ← List.isSuffixOf?_eq_some_iff_append_eq.mp hcs]
    simp
  · rintro rfl
    refine ⟨rest.toList, List.isSuffixOf?_eq_some_iff_append_eq.mpr ?_, String.ofList_toList⟩
    rw [String.toList_append]

theorem stripEnd_eq_none {s ending : String} :
    stripEnd s ending = none ↔ ∀ rest, s ≠ rest ++ ending := by
  simp only [Option.eq_none_iff_forall_ne_some, ne_eq, stripEnd_eq_some]

theorem contains_eq_true {s pattern : String} :
    contains s pattern = true ↔ ∃ a b, s = a ++ pattern ++ b := by
  rw [contains, decide_eq_true_iff]
  constructor
  · rintro ⟨a, b, h⟩
    refine ⟨.ofList a, .ofList b, ?_⟩
    rw [← String.toList_inj, ← h]
    simp
  · rintro ⟨a, b, rfl⟩
    exact ⟨a.toList, b.toList, by simp⟩

/-- A pattern without `c` does not span one. -/
theorem contains_append_char {a b pattern : String} {c : Char} (h : c ∉ pattern.toList) :
    contains (a ++ c.toString ++ b) pattern = (contains a pattern || contains b pattern) := by
  have hl : (a ++ c.toString ++ b).toList = a.toList ++ c :: b.toList := by simp
  rw [Bool.eq_iff_iff, Bool.or_eq_true]
  simp only [contains, decide_eq_true_eq, hl, List.infix_append_iff_ne_nil, List.infix_cons_iff]
  constructor
  · rintro (ha | (hp | hb) | ⟨l, r, -, hr, hlr, -, hp⟩)
    · exact .inl ha
    · -- A prefix of what starts with `c` is empty, or has the `c`.
      rcases List.prefix_cons_iff.mp hp with hn | ⟨t, ht, -⟩
      · exact .inl (hn ▸ List.nil_infix)
      · exact absurd (ht ▸ List.mem_cons_self) h
    · exact .inr hb
    · rcases List.prefix_cons_iff.mp hp with hn | ⟨t, ht, -⟩
      · exact absurd hn hr
      · exact absurd (hlr ▸ List.mem_append_right l (ht ▸ List.mem_cons_self)) h
  · rintro (ha | hb)
    · exact .inl ha
    · exact .inr (.inl (.inr hb))

/-! ## Decimal numbers -/

theorem digitsValue_eq {cs : List Char} (h : ∀ c ∈ cs, c.isDigit = true) :
    digitsValue cs = some (Nat.ofDigitChars 10 cs 0) := by
  have hfold : ∀ n, cs.foldlM (fun n c =>
      if c.isDigit then some (n * 10 + (c.toNat - '0'.toNat)) else none) n =
        some (Nat.ofDigitChars 10 cs n) := by
    induction cs with
    | nil => exact fun n => rfl
    | cons c cs ih =>
      intro n
      rw [List.foldlM_cons, if_pos (h c List.mem_cons_self), Nat.ofDigitChars_cons,
        Nat.mul_comm 10 n]
      exact ih (fun c hc => h c (List.mem_cons_of_mem _ hc)) _
  exact hfold 0

theorem isDigit_of_mem_toString {n : Nat} {c : Char} (h : c ∈ (toString n).toList) :
    c.isDigit = true := by
  rw [Nat.toString_eq_repr, Nat.toList_repr] at h
  exact Nat.isDigit_of_mem_toDigits (by decide) (by decide) h

theorem parseU32_lt {s : String} {n : Nat} (h : parseU32 s = some n) : n < UInt32.size := by
  unfold parseU32 at h
  extract_lets digits at h
  split at h
  · cases h
  · obtain ⟨m, -, hm⟩ := Option.bind_eq_some_iff.mp h
    split at hm
    · rename_i hlt
      cases hm
      exact hlt
    · cases hm

/-- **The decimal text of a number is read back**, if the number fits. -/
theorem parseU32_toString {n : Nat} (h : n < UInt32.size) : parseU32 (toString n) = some n := by
  have hd : ∀ c ∈ (toString n).toList, c.isDigit = true := fun c => isDigit_of_mem_toString
  have hne : (toString n).toList ≠ [] := by
    rw [Nat.toString_eq_repr, Nat.toList_repr]
    exact Nat.toDigits_ne_nil
  have hplus : ∀ ds, (toString n).toList ≠ '+' :: ds := by
    intro ds he
    have := hd '+' (he ▸ List.mem_cons_self)
    exact absurd this (by decide)
  have hv : digitsValue (toString n).toList = some n := by
    rw [digitsValue_eq hd, Nat.toString_eq_repr, Nat.toList_repr, Nat.ofDigitChars_ten_toDigits]
  -- The text has no sign (`hplus`), so the digits are all of it.
  simp only [parseU32, if_neg hne, hv, Option.bind_some, if_pos h]

end Base.Text
