import IppClient.Base.Lines
import IppClient.Lpoptions

/-!
# The default printer of the `lpoptions` files

A line chooses a printer when it is `Default <dest>[/<instance>] [options...]`, and the last such
line of a file decides.

* `Names line dest`: the line is of that form. `usable_eq_some`: those are the lines that are read.
* `parse_default_last`: **`parse_default` reads the last usable line**, wherever it stands and
  whatever the other lines are.
* `choice`: the same of a file's bytes, each line on its own.
* `default_printer_from_iff`: **the user's choice wins exactly when the file that decides is UTF-8
  as a whole.**
-/

namespace Ipp.Lpoptions

open Base

/-- The line chooses `dest`: it stands after `Default ` and any more blanks, up to the end of its
line, a blank or a `/`. -/
structure Names (line dest : String) : Prop where
  shape : ∃ blanks tail, line = "Default " ++ blanks ++ dest ++ tail ∧
    (∀ c ∈ blanks.toList, Text.isWhitespace c = true) ∧
    ∀ c, tail.toList.head? = some c → Text.isWhitespace c = true ∨ c = '/'
  ne_empty : dest ≠ ""
  plain : ∀ c ∈ dest.toList, Text.isWhitespace c = false ∧ c ≠ '/'

/-- The destination of a line, if it is not empty. -/
def usable (line : String) : Option String := (lineDestination line).filter (· ≠ "")

/-! ## Usable lines -/

theorem lineDestination_eq_some {line dest : String} :
    lineDestination line = some dest ↔
      ∃ rest, line = "Default " ++ rest ∧ ∃ word, (∃ blanks tail, rest = blanks ++ word ++ tail ∧
        (∀ c ∈ blanks.toList, Text.isWhitespace c = true) ∧
        (∀ c ∈ word.toList, Text.isWhitespace c = false) ∧ word ≠ "" ∧
        ∀ c, tail.toList.head? = some c → Text.isWhitespace c = true) ∧
        Text.beforeFirst word '/' = dest := by
  rw [lineDestination]
  simp only [Option.bind_eq_some_iff, Option.map_eq_some_iff, Text.stripStart_eq_some,
    Text.firstWord_eq_some]

/-- What a line is read as, it names. -/
theorem names_of_lineDestination {line dest : String} (h : lineDestination line = some dest)
    (hne : dest ≠ "") : Names line dest := by
  obtain ⟨rest, rfl, word, ⟨blanks, tail, rfl, hb, hw, -, ht⟩, rfl⟩ := lineDestination_eq_some.mp h
  obtain ⟨more, hmore, hhead⟩ := Text.exists_eq_beforeFirst_append word '/'
  have hslash : '/' ∉ (Text.beforeFirst word '/').toList := Text.not_mem_beforeFirst
  generalize Text.beforeFirst word '/' = dest at hmore hslash hne
  subst hmore
  refine ⟨⟨blanks, more ++ tail, ?_, hb, fun c hc => ?_⟩, hne, fun c hc => ⟨?_, ?_⟩⟩
  · simp only [String.append_assoc]
  · rw [String.toList_append, List.head?_append] at hc
    rcases Option.or_eq_some_iff.mp hc with hc | ⟨-, hc⟩
    · exact .inr (hhead c hc)
    · exact .inl (ht c hc)
  · exact hw c (by simp [hc])
  · rintro rfl
    exact hslash hc

/-- What a line names, it is read as. -/
theorem Names.lineDestination_eq {line dest : String} (h : Names line dest) :
    lineDestination line = some dest := by
  obtain ⟨⟨blanks, tail, rfl, hb, ht⟩, hne, hplain⟩ := h
  -- The word goes on with what of the tail is no blank, which a `/` starts.
  have hmore : ∀ c, (tail.toList.takeWhile fun c => !Text.isWhitespace c).head? = some c →
      c = '/' := by
    intro c hc
    have hw : Text.isWhitespace c = false := by
      simpa using List.mem_takeWhile_imp (List.mem_of_head? hc)
    rw [List.head?_takeWhile] at hc
    obtain ⟨hc, -⟩ := Option.filter_eq_some_iff.mp hc
    exact (ht c hc).resolve_left (by simp [hw])
  refine lineDestination_eq_some.mpr ⟨blanks ++ dest ++ tail, by simp only [String.append_assoc],
    dest ++ .ofList (tail.toList.takeWhile fun c => !Text.isWhitespace c),
    ⟨blanks, .ofList (tail.toList.dropWhile fun c => !Text.isWhitespace c), ?_, hb, ?_, ?_, ?_⟩,
    ?_⟩
  · simp only [← String.toList_inj, String.toList_append, String.toList_ofList,
      List.append_assoc, List.takeWhile_append_dropWhile]
  · intro c hc
    rw [String.toList_append, String.toList_ofList] at hc
    rcases List.mem_append.mp hc with hc | hc
    · exact (hplain c hc).1
    · simpa using List.mem_takeWhile_imp hc
  · simp [hne]
  · intro c hc
    rw [String.toList_ofList] at hc
    have := List.head?_dropWhile_not (fun c => !Text.isWhitespace c) tail.toList
    rw [hc] at this
    simpa using this
  · rw [Text.beforeFirst, String.toList_append, String.toList_ofList,
      Text.takeWhile_append_of_head (fun c hc => by simp [(hplain c hc).2])
        (fun c hc => by simp [hmore c hc]), String.ofList_toList]

theorem usable_eq_some {line dest : String} : usable line = some dest ↔ Names line dest := by
  rw [usable, Option.filter_eq_some_iff, decide_eq_true_eq]
  constructor
  · rintro ⟨h, hne⟩
    exact names_of_lineDestination h hne
  · intro h
    exact ⟨h.lineDestination_eq, h.ne_empty⟩

/-- A `\r` before the end of a line changes nothing of what the line chooses: it is a blank. -/
theorem names_append_cr {line dest : String} : Names (line ++ "\r") dest ↔ Names line dest := by
  have hcr : Text.isWhitespace '\r' = true := by decide
  constructor
  · rintro ⟨⟨blanks, tail, heq, hb, ht⟩, hne, hplain⟩
    have hl := congrArg String.toList heq
    simp only [String.toList_append] at hl
    rcases List.eq_nil_or_concat tail.toList with htail | ⟨t, x, htail⟩
    · -- The line would end with the destination, which has no blank.
      rcases List.eq_nil_or_concat dest.toList with hd | ⟨d, x, hd⟩
      · exact absurd (String.toList_eq_nil_iff.mp hd) hne
      · rw [htail, hd, List.append_nil, List.concat_eq_append, ← List.append_assoc] at hl
        obtain ⟨-, hx⟩ := List.append_inj' hl rfl
        obtain rfl : '\r' = x := by simpa using hx
        have hmem : '\r' ∈ dest.toList := by simp [hd]
        rw [(hplain '\r' hmem).1] at hcr
        cases hcr
    · rw [htail, List.concat_eq_append, ← List.append_assoc] at hl
      obtain ⟨hline, -⟩ := List.append_inj' hl rfl
      refine ⟨⟨blanks, .ofList t, ?_, hb, fun c hc => ht c ?_⟩, hne, hplain⟩
      · rw [← String.toList_inj, hline]
        simp
      · rw [String.toList_ofList] at hc
        rw [htail, List.concat_eq_append, List.head?_append, hc]
        rfl
  · rintro ⟨⟨blanks, tail, rfl, hb, ht⟩, hne, hplain⟩
    refine ⟨⟨blanks, tail ++ "\r", by simp only [String.append_assoc], hb, fun c hc => ?_⟩, hne,
      hplain⟩
    rw [String.toList_append, List.head?_append] at hc
    rcases Option.or_eq_some_iff.mp hc with hc | ⟨-, hc⟩
    · exact ht c hc
    · cases hc
      exact .inl hcr

theorem usable_chomp (line : List Char) :
    usable (.ofList (Lines.chomp '\r' line)) = usable (.ofList line) := by
  unfold Lines.chomp
  split
  · rename_i h
    have hline : String.ofList line = .ofList line.dropLast ++ "\r" := by
      rw [← String.toList_inj, String.toList_append, String.toList_ofList, String.toList_ofList]
      exact (List.dropLast_append_getLast? '\r' h).symm
    refine Option.ext fun dest => ?_
    rw [usable_eq_some, usable_eq_some, hline, names_append_cr]
  · rfl

/-! ## The last usable line -/

/-- The choice of the last line that makes one. -/
def chosen (cs : List Char) : Option String :=
  ((Lines.split '\n' '\r' cs).filterMap fun line => usable (.ofList line)).getLast?

theorem parseDefault_eq_chosen (text : String) : parseDefault text = chosen text.toList := by
  unfold parseDefault chosen
  rw [Lines.lines_eq, ← List.head?_filter, List.filter_reverse, List.head?_reverse,
    List.filter_filterMap, List.filterMap_map]
  rfl

section Chosen

variable {line a b : List Char}

@[simp] theorem chosen_nil : chosen [] = none := rfl

theorem chosen_last (h : '\n' ∉ line) : chosen line = usable (.ofList line) := by
  by_cases hne : line = []
  · subst hne
    rfl
  · rw [chosen, Lines.split_last h hne]
    cases hu : usable (.ofList line) <;> simp [hu]

theorem chosen_append_nl : chosen (a ++ '\n' :: b) = (chosen b).or (chosen (a ++ ['\n'])) := by
  rw [chosen, Lines.split_append_nl, List.filterMap_append, List.getLast?_append]
  rfl

theorem chosen_line (h : '\n' ∉ line) :
    chosen (line ++ '\n' :: b) = (chosen b).or (usable (.ofList line)) := by
  have hl : chosen (line ++ ['\n']) = usable (.ofList line) := by
    rw [chosen, Lines.split_append h, Lines.split_nil, ← usable_chomp line]
    cases hu : usable (.ofList (Lines.chomp '\r' line)) <;> simp [hu]
  rw [chosen_append_nl, hl]

end Chosen

/-- The text ends where a line starts. -/
def AtLineStart (text : String) : Prop := text = "" ∨ ∃ before, text = before ++ "\n"

/-- What stands at the start of a line is read as by itself, and before what precedes it. -/
theorem AtLineStart.chosen_append {text : String} (h : AtLineStart text) (b : List Char) :
    chosen (text.toList ++ b) = (chosen b).or (chosen text.toList) := by
  rcases h with rfl | ⟨before, rfl⟩
  · simp
  · have hcut : (before ++ "\n").toList = before.toList ++ ['\n'] := by simp
    rw [hcut, List.append_assoc, List.singleton_append, chosen_append_nl]

theorem usable_eq_none {line : String} : usable line = none ↔ ∀ dest, ¬Names line dest := by
  simp only [Option.eq_none_iff_forall_ne_some, ne_eq, usable_eq_some]

theorem parseDefault_eq_none {text : String} :
    parseDefault text = none ↔ ∀ line ∈ Text.lines text, ∀ dest, ¬Names line dest := by
  rw [parseDefault_eq_chosen, chosen, List.getLast?_eq_none_iff, List.filterMap_eq_nil_iff,
    Lines.lines_eq]
  simp only [List.mem_map, forall_exists_index, and_imp, forall_apply_eq_imp_iff₂, usable_eq_none]

/-- A destination that is returned is that of a line. -/
theorem exists_names_of_parseDefault {text dest : String} (h : parseDefault text = some dest) :
    ∃ line ∈ Text.lines text, Names line dest := by
  rw [parseDefault_eq_chosen, chosen] at h
  obtain ⟨line, hline, hu⟩ := List.mem_filterMap.mp (List.mem_of_getLast? h)
  refine ⟨.ofList line, ?_, usable_eq_some.mp hu⟩
  rw [Lines.lines_eq]
  exact List.mem_map_of_mem hline

/-- An optional `/instance`. -/
def IsInstance (text : String) : Prop :=
  text = "" ∨ ∃ name, text = "/" ++ name ∧ ∀ c ∈ name.toList, Text.isWhitespace c = false

/-- The rest of a line after its first word: nothing, or what a blank starts. -/
def IsOptions (text : String) : Prop :=
  '\n' ∉ text.toList ∧ ∀ c, text.toList.head? = some c → Text.isWhitespace c = true

/-- The blanks between two words of a line. -/
def IsBlanks (text : String) : Prop :=
  '\n' ∉ text.toList ∧ ∀ c ∈ text.toList, Text.isWhitespace c = true

/-- A word of `n` that a queue may be called. -/
structure IsDestination (n : String) : Prop where
  ne_empty : n ≠ ""
  plain : ∀ c ∈ n.toList, Text.isWhitespace c = false ∧ c ≠ '/'

/-- What follows a line: nothing, or its end and lines that choose nothing. -/
def IsHarmless (text : String) : Prop :=
  text = "" ∨ ∃ following, text = "\n" ++ following ∧
    ∀ line ∈ Text.lines following, ∀ dest, ¬Names line dest

theorem newline_not_mem_of_plain {text : String}
    (h : ∀ c ∈ text.toList, Text.isWhitespace c = false) : '\n' ∉ text.toList := by
  intro hm
  have := h '\n' hm
  revert this
  decide

/-- A line of the documented form chooses its destination. -/
theorem names_of_parts {blanks n inst options : String} (hb : IsBlanks blanks)
    (hn : IsDestination n) (hi : IsInstance inst) (ho : IsOptions options) :
    Names ("Default " ++ blanks ++ n ++ inst ++ options) n := by
  refine ⟨⟨blanks, inst ++ options, by simp only [String.append_assoc], hb.2, fun c hc => ?_⟩,
    hn.ne_empty, hn.plain⟩
  rcases hi with rfl | ⟨name, rfl, -⟩
  · rw [String.empty_append] at hc
    exact .inl (ho.2 c hc)
  · have hslash : ("/" ++ name ++ options).toList.head? = some '/' := by simp
    rw [hslash] at hc
    cases hc
    exact .inr rfl

theorem newline_not_mem_of_parts {blanks n inst options : String} (hb : IsBlanks blanks)
    (hn : IsDestination n) (hi : IsInstance inst) (ho : IsOptions options) :
    '\n' ∉ ("Default " ++ blanks ++ n ++ inst ++ options).toList := by
  have hn' : '\n' ∉ n.toList := newline_not_mem_of_plain fun c hc => (hn.plain c hc).1
  have hi' : '\n' ∉ inst.toList := by
    rcases hi with rfl | ⟨name, rfl, hname⟩
    · simp
    · have := newline_not_mem_of_plain hname
      simp [this]
  simp [hb.1, hn', hi', ho.1]

/-- What is returned can be the name of a queue. -/
theorem isDestination_of_parseDefault {text dest : String} (h : parseDefault text = some dest) :
    IsDestination dest := by
  obtain ⟨line, -, hnames⟩ := exists_names_of_parseDefault h
  exact ⟨hnames.ne_empty, hnames.plain⟩

section

variable {before line after : String}

/-- A usable line decides, if what follows it is harmless. -/
theorem parseDefault_usable {dest : String} (hbefore : AtLineStart before)
    (hnl : '\n' ∉ line.toList) (hu : usable line = some dest) (hafter : IsHarmless after) :
    parseDefault (before ++ line ++ after) = some dest := by
  suffices h : chosen (line.toList ++ after.toList) = some dest by
    rw [parseDefault_eq_chosen, String.toList_append, String.toList_append, List.append_assoc,
      hbefore.chosen_append, h]
    rfl
  rcases hafter with rfl | ⟨following, rfl, hf⟩
  · rw [String.toList_empty, List.append_nil, chosen_last hnl, String.ofList_toList, hu]
  · have hnone : chosen following.toList = none := by
      rw [← parseDefault_eq_chosen, parseDefault_eq_none]
      exact hf
    have hcut : ("\n" ++ following).toList = '\n' :: following.toList := by simp
    rw [hcut, chosen_line hnl, hnone, String.ofList_toList, hu]
    rfl

/-- A line that is not usable counts for nothing. -/
theorem parseDefault_unusable (hbefore : AtLineStart before) (hnl : '\n' ∉ line.toList)
    (hu : usable line = none) :
    parseDefault (before ++ line ++ "\n" ++ after) = parseDefault (before ++ after) := by
  have hcut : (before ++ line ++ "\n" ++ after).toList =
      before.toList ++ (line.toList ++ '\n' :: after.toList) := by simp
  rw [parseDefault_eq_chosen, parseDefault_eq_chosen, hcut, String.toList_append,
    hbefore.chosen_append, hbefore.chosen_append, chosen_line hnl, String.ofList_toList, hu,
    Option.or_none]

/-- Nor does one at the end, without its end of line. -/
theorem parseDefault_unusable_last (hbefore : AtLineStart before) (hnl : '\n' ∉ line.toList)
    (hu : usable line = none) : parseDefault (before ++ line) = parseDefault before := by
  rw [parseDefault_eq_chosen, parseDefault_eq_chosen, String.toList_append,
    hbefore.chosen_append, chosen_last hnl, String.ofList_toList, hu, Option.none_or]

end

/-- The usable lines of a text are all that counts. -/
theorem parseDefault_eq_filter (text : String) :
    parseDefault text =
      (((Text.lines text).filter fun line => (usable line).isSome).filterMap usable).getLast? := by
  rw [parseDefault_eq_chosen, chosen, Lines.lines_eq, List.filterMap_filter, List.filterMap_map]
  congr 2
  funext line
  simp only [Function.comp_apply]
  cases usable (.ofList line) <;> rfl

/-- **`parse_default` reads the last usable line.**

* What it returns is not empty, and has neither a blank nor a `/`.
* The destination of a `Default` line is returned, whatever comes before the line, with any
  instance and options, if no usable line comes after it.
* A line that is not usable can be put in or taken out at the start of any line, or at the end:
  only the usable lines of a text count.
* Nothing is returned exactly when no line is usable. -/
theorem parse_default_last :
    (∀ text dest, parseDefault text = some dest → IsDestination dest) ∧
    (∀ before blanks n inst options after, AtLineStart before → IsBlanks blanks →
      IsDestination n → IsInstance inst → IsOptions options → IsHarmless after →
      parseDefault (before ++ ("Default " ++ blanks ++ n ++ inst ++ options) ++ after) = some n) ∧
    (∀ before line after, AtLineStart before → '\n' ∉ line.toList → (∀ dest, ¬Names line dest) →
      parseDefault (before ++ line ++ "\n" ++ after) = parseDefault (before ++ after)) ∧
    (∀ before line, AtLineStart before → '\n' ∉ line.toList → (∀ dest, ¬Names line dest) →
      parseDefault (before ++ line) = parseDefault before) ∧
    (∀ text text', ((Text.lines text).filter fun line => (usable line).isSome) =
        ((Text.lines text').filter fun line => (usable line).isSome) →
      parseDefault text = parseDefault text') ∧
    (∀ text, parseDefault text = none ↔ ∀ line ∈ Text.lines text, ∀ dest, ¬Names line dest) := by
  refine ⟨fun _ _ => isDestination_of_parseDefault, ?_, ?_, ?_, ?_, fun _ => parseDefault_eq_none⟩
  · intro before blanks n inst options after hbefore hb hn hi ho hafter
    have hu := usable_eq_some.mpr (names_of_parts hb hn hi ho)
    exact parseDefault_usable hbefore (newline_not_mem_of_parts hb hn hi ho) hu hafter
  · intro before line after hbefore hnl hnone
    exact parseDefault_unusable hbefore hnl (usable_eq_none.mpr hnone)
  · intro before line hbefore hnl hnone
    exact parseDefault_unusable_last hbefore hnl (usable_eq_none.mpr hnone)
  · intro text text' h
    rw [parseDefault_eq_filter, parseDefault_eq_filter, h]

theorem parse_default_last_duplex :
    parseDefault ("Dest Other a=b\n" ++
      ("Default " ++ "" ++ "HP-8210" ++ "/duplex" ++ " media=a4") ++
      "\nDefault /x\r\nDefault\n") = some "HP-8210" := by
  have hn : IsDestination "HP-8210" := ⟨by decide, by simp [Text.isWhitespace]⟩
  have hinst : IsInstance "/duplex" := .inr ⟨"duplex", rfl, by simp [Text.isWhitespace]⟩
  have hoptions : IsOptions " media=a4" := ⟨by simp, by simp [Text.isWhitespace]⟩
  have hharmless : IsHarmless "\nDefault /x\r\nDefault\n" := by
    refine .inr ⟨"Default /x\r\nDefault\n", rfl, fun line hline => usable_eq_none.mp ?_⟩
    revert line
    decide
  exact parse_default_last.2.1 _ _ _ _ _ _ (.inr ⟨"Dest Other a=b", rfl⟩) ⟨by simp, by simp⟩ hn
    hinst hoptions hharmless

/-! ## Files -/

/-- The choice of a file, each line decoded on its own: that of its last usable line. -/
def choice (file : ByteArray) : Option String :=
  ((Lines.split 10 13 file.data.toList).filterMap fun line =>
    (Lines.decode line).bind usable).getLast?

/-- The file can be read as a text. -/
def IsText (file : Option ByteArray) : Prop := (readToString file).isSome

theorem choice_eq_parseDefault {file : ByteArray} {text : String}
    (h : String.fromUTF8? file = some text) : choice file = parseDefault text := by
  rw [choice, Lines.fromUTF8?_eq_some.mp h, Lines.split_encode, List.filterMap_map,
    parseDefault_eq_chosen, chosen]
  congr 2
  funext line
  simp

/-- A file that is no text is read as an absent one. -/
theorem readToString_eq_none {file : Option ByteArray} (h : ¬IsText file) :
    readToString file = none := by
  simpa [IsText] using h

/-- What a file that is a text is read as. -/
theorem parseDefault_of_isText {file : Option ByteArray} (h : IsText file) :
    (readToString file).bind parseDefault = file.bind choice := by
  obtain ⟨text, htext⟩ := Option.isSome_iff_exists.mp h
  obtain ⟨bytes, rfl, hbytes⟩ := Option.bind_eq_some_iff.mp htext
  rw [htext, Option.bind_some, Option.bind_some, choice_eq_parseDefault hbytes]

/-- A file is read as its choice unless it has one and is no text. -/
theorem parseDefault_eq_choice_iff {file : Option ByteArray} :
    (readToString file).bind parseDefault = file.bind choice ↔
      (file.bind choice ≠ none → IsText file) := by
  by_cases htext : IsText file
  · simp [parseDefault_of_isText htext, htext]
  · rw [readToString_eq_none htext, Option.bind_none]
    simp [htext, eq_comm]

theorem defaultPrinterFrom_eq (user system : Option ByteArray) :
    defaultPrinterFrom user system =
      ((readToString user).bind parseDefault).or ((readToString system).bind parseDefault) := by
  unfold defaultPrinterFrom
  cases hu : (readToString user).bind parseDefault <;>
    cases hs : (readToString system).bind parseDefault <;> simp [List.findSome?, hu, hs]

/-- **The user's choice wins, and the system's stands in for it, exactly when the file that
decides can be read as a text**: the user's file if it has a usable line, else the system's if it
has one. -/
theorem default_printer_from_iff (user system : Option ByteArray) :
    ((∀ dest, user.bind choice = some dest →
        ∀ system', defaultPrinterFrom user system' = some dest) ∧
      (user.bind choice = none → defaultPrinterFrom user system = system.bind choice)) ↔
    ((user.bind choice ≠ none → IsText user) ∧
      (user.bind choice = none → system.bind choice ≠ none → IsText system)) := by
  simp only [defaultPrinterFrom_eq]
  refine and_congr ?_ ?_
  · rw [← parseDefault_eq_choice_iff]
    constructor
    · intro h
      cases hc : user.bind choice with
      | none =>
        rw [← hc, parseDefault_eq_choice_iff]
        exact fun hne => absurd hc hne
      | some dest =>
        -- With no system file, what is returned comes from the user's.
        have hd := h dest hc none
        have hnone : (readToString none).bind parseDefault = none := rfl
        rwa [hnone, Option.or_none] at hd
    · intro h dest hdest system'
      rw [h, hdest, Option.some_or]
  · refine imp_congr_right fun hnone => ?_
    have hu : (readToString user).bind parseDefault = none := by
      rw [← hnone, parseDefault_eq_choice_iff]
      exact fun hne => absurd hnone hne
    rw [hu, Option.none_or, parseDefault_eq_choice_iff]

/-- One byte that is not UTF-8, after the user's choice, and the choice is lost. -/
theorem byte_after_choice_loses_it :
    ¬∀ user system dest, Option.bind user choice = some dest →
      defaultPrinterFrom user system = some dest := by
  intro h
  have := h (some ⟨"Default HP\n".toUTF8.data.push 255⟩) none "HP" (by decide)
  revert this
  decide

end Ipp.Lpoptions
