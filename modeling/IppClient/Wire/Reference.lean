import IppClient.Base.Except
import IppClient.Wire.UriText

/-!
# A reference instance of the crates

A small concrete `IppCrate`, so that the client can be run on given inputs: URIs of the forms
`scheme://authority/path` and `/path`, texts bounded by their length in UTF-8, and the requests of
RFC 8011, with the `printer-uri` as the crate writes it. `Reference.lawful`,
`Reference.lawfulHeader`, `Reference.lawfulDocuments` and `Reference.lawfulUri` show that what the
client relies on holds of it, so those assumptions have a model.
-/

namespace Ipp.Reference

open Base

/-! ## Bounded texts and attributes -/

/-- The length of a text in UTF-8. -/
def byteLength (s : String) : Nat := s.toList.foldl (fun n c => n + c.utf8Size) 0

/-- A text of ASCII letters is as long as it has letters. -/
theorem byteLength_replicate (n : Nat) : byteLength (.ofList (.replicate n 'a')) = n := by
  have ha : Char.utf8Size 'a' = 1 := by decide
  have hfold : ∀ n k, (List.replicate n 'a').foldl (fun n c => n + c.utf8Size) k = k + n := by
    intro n
    induction n with
    | zero => exact fun k => rfl
    | succ n ih =>
      intro k
      rw [List.replicate_succ, List.foldl_cons, ih, ha]
      omega
  rw [byteLength, String.toList_ofList, hfold, Nat.zero_add]

def fits (kind : StringKind) (s : String) : Bool := byteLength s ≤ kind.maxBytes

def withName (name : String) (value : IppValue) : Except ForeignError IppAttribute :=
  if fits .keyword name then .ok ⟨name, value⟩ else .error ⟨"invalid attribute name", []⟩

/-! ## Requests -/

/-- Adds an operation attribute of a bounded string type. -/
def withText (m : IppRequestResponse) (name : String) (kind : StringKind)
    (mk : String → IppValue) (text : String) : Except ForeignError IppRequestResponse :=
  if fits kind text then .ok (m.add .operationAttributes ⟨name, mk text⟩)
  else .error ⟨s!"{name}: value too long", []⟩

/-- The same, where the text is optional. -/
def withOptional (m : IppRequestResponse) (name : String) (kind : StringKind)
    (mk : String → IppValue) : Option String → Except ForeignError IppRequestResponse
  | some text => withText m name kind mk text
  | none => .ok m

/-- The attributes every request starts with. -/
def header : List IppAttribute :=
  [⟨"attributes-charset", .charset "utf-8"⟩, ⟨"attributes-natural-language", .naturalLanguage "en"⟩]

/-- A request about the printer that this text names. -/
def requestFor (op : Operation) (printer : Option String) :
    Except ForeignError IppRequestResponse :=
  withOptional ⟨op.code, [⟨.operationAttributes, header⟩], []⟩ "printer-uri" .uri .uri printer

def newRequest (op : Operation) (uri : Option Uri) : Except ForeignError IppRequestResponse :=
  requestFor op (uri.map printerUri)

def withUser (m : IppRequestResponse) (user : Option String) :
    Except ForeignError IppRequestResponse :=
  withOptional m "requesting-user-name" .name .nameWithoutLanguage user

def getPrinterAttributes (uri : Uri) : Except ForeignError IppRequestResponse :=
  requestFor .getPrinterAttributes (some (uriText uri))

def getJobs (uri : Uri) (user : Option String) : Except ForeignError IppRequestResponse := do
  withUser (← requestFor .getJobs (some (uriText uri))) user

def getJobAttributes (uri : Uri) (id : Int32) (user : Option String) :
    Except ForeignError IppRequestResponse := do
  let m ← requestFor .getJobAttributes (some (uriText uri))
  withUser (m.add .operationAttributes ⟨"job-id", .integer id⟩) user

def createJob (uri : Uri) (jobName : Option String) : Except ForeignError IppRequestResponse := do
  let m ← requestFor .createJob (some (uriText uri))
  withOptional m "job-name" .name .nameWithoutLanguage jobName

def printJob (uri : Uri) (payload : Payload) (user jobName format : Option String) :
    Except ForeignError IppRequestResponse := do
  let m ← withUser (← requestFor .printJob (some (uriText uri))) user
  let m ← withOptional m "job-name" .name .nameWithoutLanguage jobName
  let m ← withOptional m "document-format" .mimeMediaType .mimeMediaType format
  return { m with payload }

def sendDocument (uri : Uri) (id : Int32) (payload : Payload) (user format : Option String)
    (last : Bool) : Except ForeignError IppRequestResponse := do
  let m ← requestFor .sendDocument (some (uriText uri))
  let m ← withUser (m.add .operationAttributes ⟨"job-id", .integer id⟩) user
  let m ← withOptional m "document-format" .mimeMediaType .mimeMediaType format
  return { m.add .operationAttributes ⟨"last-document", .boolean last⟩ with payload }

def purgeJobs (uri : Uri) (user : Option String) : Except ForeignError IppRequestResponse := do
  withUser (← requestFor .purgeJobs (some (uriText uri))) user

/-- The `Debug` text of a status. -/
def statusText (status : Int16) : String :=
  if status = 0x0400 then "ClientErrorBadRequest"
  else if status = 0x0403 then "ClientErrorNotAuthorized"
  else if status = 0x0406 then "ClientErrorNotFound"
  else if status = 0x040A then "ClientErrorDocumentFormatNotSupported"
  else if status = 0x0500 then "ServerErrorInternalError"
  else if status = 0x0501 then "ServerErrorOperationNotSupported"
  else "UnknownStatusCode"

/-- The reference instance. -/
@[reducible] def crate : IppCrate where
  parseUri
  uriText
  defaultPort
  fits
  withName
  printerUri
  newRequest
  cupsGetPrinters := ⟨Operation.cupsGetPrinters.code, [⟨.operationAttributes, header⟩], []⟩
  getPrinterAttributes
  getJobs
  getJobAttributes
  createJob
  printJob
  sendDocument
  purgeJobs
  isSuccess status := status = 0 || status = 1 || status = 2
  statusText

/-! ## It is lawful -/

section Lawful

variable {m m' : IppRequestResponse} {name : String} {kind : StringKind}
  {mk : String → IppValue} {op : Operation} {printer user : Option String}

theorem withName_ok {value : IppValue} {a : IppAttribute} (h : withName name value = .ok a) :
    a = ⟨name, value⟩ := by
  unfold withName at h
  split at h
  · cases h
    rfl
  · cases h

theorem withName_taken {value : IppValue} {a : IppAttribute} (h : withName name value = .ok a)
    (value' : IppValue) : ∃ a', withName name value' = .ok a' := by
  unfold withName at h ⊢
  split at h
  · rename_i hfits
    exact ⟨_, if_pos hfits⟩
  · cases h

theorem withText_ok {text : String} (h : withText m name kind mk text = .ok m') :
    m' = m.add .operationAttributes ⟨name, mk text⟩ := by
  unfold withText at h
  split at h
  · cases h
    rfl
  · cases h

/-- What an optional text leaves alone: the operation, and the attributes of other names. -/
theorem withOptional_ok {text : Option String} (h : withOptional m name kind mk text = .ok m') :
    m'.operationOrStatus = m.operationOrStatus ∧
      (∀ n, n ≠ name → m'.operation n = m.operation n) ∧
      (m.operation name = none → m'.operation name = text.map mk) := by
  cases text with
  | none =>
    cases h
    exact ⟨rfl, fun _ _ => rfl, fun h => h⟩
  | some text =>
    obtain rfl := withText_ok h
    refine ⟨rfl, fun n hn => ?_, fun hn => ?_⟩
    · rw [IppRequestResponse.operation_add, if_neg (Ne.symm hn), Option.or_none]
    · rw [IppRequestResponse.operation_add, hn, if_pos rfl]
      rfl

theorem requestFor_within (h : requestFor op printer = .ok m) : m.Within headerNames := by
  intro n hn
  simp only [headerNames, List.mem_cons, List.not_mem_nil, or_false, not_or] at hn
  obtain ⟨h1, h2, h3⟩ := hn
  obtain ⟨-, hother, -⟩ := withOptional_ok h
  rw [hother n h3]
  simp [IppRequestResponse.operation, IppRequestResponse.lookup, IppRequestResponse.firstOf,
    IppRequestResponse.groupsOf, IppAttributeGroup.get, header, Ne.symm h1, Ne.symm h2]

attribute [local instance] crate

theorem requestFor_isFor (h : requestFor op printer = .ok m) : m.IsFor op printer none := by
  obtain ⟨hcode, -, hprinter⟩ := withOptional_ok h
  exact ⟨hcode, hprinter rfl, requestFor_within h "requesting-user-name" (by decide)⟩

theorem isFor_add (h : m.IsFor op printer user) {a : IppAttribute} (h1 : a.name ≠ "printer-uri")
    (h2 : a.name ≠ "requesting-user-name") :
    (m.add .operationAttributes a).IsFor op printer user := by
  refine ⟨h.code, ?_, ?_⟩
  · rw [IppRequestResponse.operation_add, if_neg h1, Option.or_none, h.printer]
  · rw [IppRequestResponse.operation_add, if_neg h2, Option.or_none, h.user]

theorem isFor_withOptional (h : m.IsFor op printer user) {text : Option String}
    (hm : withOptional m name kind mk text = .ok m') (h1 : name ≠ "printer-uri")
    (h2 : name ≠ "requesting-user-name") : m'.IsFor op printer user := by
  obtain ⟨hc, hn, -⟩ := withOptional_ok hm
  exact ⟨hc.trans h.code, (hn _ (Ne.symm h1)).trans h.printer, (hn _ (Ne.symm h2)).trans h.user⟩

theorem isFor_withUser (h : m.IsFor op printer none) (hm : withUser m user = .ok m') :
    m'.IsFor op printer user := by
  obtain ⟨hc, hn, hu⟩ := withOptional_ok hm
  exact ⟨hc.trans h.code, (hn _ (by decide)).trans h.printer, hu h.user⟩

theorem within_add {names : List String} (h : m.Within names) (a : IppAttribute) :
    (m.add .operationAttributes a).Within (a.name :: names) := by
  intro n hn
  rw [List.mem_cons, not_or] at hn
  rw [IppRequestResponse.operation_add, h n hn.2, if_neg (Ne.symm hn.1)]
  rfl

theorem within_withUser {names : List String} (h : m.Within names) (hm : withUser m user = .ok m') :
    m'.Within ("requesting-user-name" :: names) := by
  intro n hn
  rw [List.mem_cons, not_or] at hn
  rw [(withOptional_ok hm).2.1 n hn.1, h n hn.2]

theorem sendDocument_ok {u : Uri} {id : Int32} {payload : Payload} {format : Option String}
    {last : Bool} (h : sendDocument u id payload user format last = .ok m) :
    m.IsFor .sendDocument (some (uriText u)) user ∧ m.operation "job-id" = some (.integer id) ∧
      m.operation "last-document" = some (.boolean last) := by
  obtain ⟨m1, h1, h⟩ := bind_eq_ok.mp h
  obtain ⟨m2, h2, h⟩ := bind_eq_ok.mp h
  obtain ⟨m3, h3, h⟩ := bind_eq_ok.mp h
  cases h
  have f1 := isFor_add (requestFor_isFor h1) (a := ⟨"job-id", .integer id⟩) (by simp) (by simp)
  have f3 := isFor_withOptional (isFor_withUser f1 h2) h3 (by simp) (by simp)
  obtain ⟨-, n2, -⟩ := withOptional_ok h2
  obtain ⟨-, n3, -⟩ := withOptional_ok h3
  have hb := requestFor_within h1
  -- What the attributes added after the header leave of the job id and the last mark.
  have hjob : m3.operation "job-id" = some (.integer id) := by
    rw [n3 _ (by simp), n2 _ (by simp), IppRequestResponse.operation_add, hb _ (by decide)]
    rfl
  have hlast : m3.operation "last-document" = none := by
    rw [n3 _ (by simp), n2 _ (by simp), IppRequestResponse.operation_add, hb _ (by decide)]
    rfl
  have f4 : (m3.add .operationAttributes ⟨"last-document", .boolean last⟩).IsFor .sendDocument
      (some (uriText u)) user := isFor_add f3 (by simp) (by simp)
  refine ⟨⟨f4.code, f4.printer, f4.user⟩, ?_, ?_⟩
  · show (m3.add .operationAttributes _).operation _ = _
    rw [IppRequestResponse.operation_add, hjob]
    rfl
  · show (m3.add .operationAttributes _).operation _ = _
    rw [IppRequestResponse.operation_add, hlast]
    rfl

/-- A document format that does not fit its string type: the request cannot be built. -/
theorem sendDocument_ne_ok {u : Uri} {id : Int32} {payload : Payload} {format : String}
    {last : Bool} (hf : fits .mimeMediaType format = false) :
    sendDocument u id payload user (some format) last ≠ .ok m := by
  intro h
  obtain ⟨m1, h1, h⟩ := bind_eq_ok.mp h
  obtain ⟨m2, h2, h⟩ := bind_eq_ok.mp h
  obtain ⟨m3, h3, h⟩ := bind_eq_ok.mp h
  simp [withOptional, withText, hf] at h3

/-- What the client relies on of the crates holds of the reference instance. -/
theorem lawful : LawfulIppCrate where
  withName_ok h := withName_ok h
  withName_taken h := withName_taken h
  newRequest_ok h := requestFor_isFor h
  newRequest_within h := requestFor_within h
  cupsGetPrinters_code := rfl
  cupsGetPrinters_within := by
    have h : requestFor .cupsGetPrinters none = .ok IppCrate.cupsGetPrinters := rfl
    exact requestFor_within h
  getPrinterAttributes_ok h := requestFor_isFor h
  getJobs_ok h := by
    obtain ⟨m, hm, h⟩ := bind_eq_ok.mp h
    exact isFor_withUser (requestFor_isFor hm) h
  getJobs_within h := by
    obtain ⟨m, hm, h⟩ := bind_eq_ok.mp h
    exact within_withUser (requestFor_within hm) h
  getJobAttributes_ok h := by
    obtain ⟨m, hm, h⟩ := bind_eq_ok.mp h
    refine ⟨isFor_withUser (isFor_add (requestFor_isFor hm) (by simp) (by simp)) h, ?_⟩
    rw [(withOptional_ok h).2.1 _ (by simp), IppRequestResponse.operation_add,
      requestFor_within hm _ (by decide)]
    rfl
  getJobAttributes_within h := by
    obtain ⟨m, hm, h⟩ := bind_eq_ok.mp h
    intro n hn
    simp only [List.mem_cons, not_or] at hn
    obtain ⟨h1, h2, h3⟩ := hn
    refine within_withUser (within_add (requestFor_within hm) _) h n ?_
    simp only [List.mem_cons, not_or]
    exact ⟨h2, h1, h3⟩
  createJob_ok h := by
    obtain ⟨m, hm, h⟩ := bind_eq_ok.mp h
    exact isFor_withOptional (requestFor_isFor hm) h (by simp) (by simp)
  printJob_ok h := by
    obtain ⟨m, hm, h⟩ := bind_eq_ok.mp h
    obtain ⟨m1, h1, h⟩ := bind_eq_ok.mp h
    obtain ⟨m2, h2, h⟩ := bind_eq_ok.mp h
    obtain ⟨m3, h3, h⟩ := bind_eq_ok.mp h
    cases h
    have f1 := isFor_withUser (requestFor_isFor hm) h1
    have f2 := isFor_withOptional f1 h2 (by simp) (by simp)
    have f3 := isFor_withOptional f2 h3 (by simp) (by simp)
    exact ⟨f3.code, f3.printer, f3.user⟩
  sendDocument_ok h := sendDocument_ok h
  purgeJobs_ok h := by
    obtain ⟨m, hm, h⟩ := bind_eq_ok.mp h
    exact isFor_withUser (requestFor_isFor hm) h

/-- A header has the three attributes, as texts. -/
theorem header_has {tag : DelimiterTag} {a : IppAttribute}
    (h : IppRequestResponse.Has ⟨op.code, [⟨.operationAttributes, header⟩], []⟩ tag a) :
    a.name ∈ headerNames ∧
      ∃ text, a.value = .charset text ∨ a.value = .naturalLanguage text ∨ a.value = .uri text := by
  obtain ⟨g, hg, -, ha⟩ := h
  rw [List.mem_singleton.mp hg] at ha
  simp only [header, List.mem_cons, List.not_mem_nil, or_false] at ha
  rcases ha with rfl | rfl
  · exact ⟨by decide, _, .inl rfl⟩
  · exact ⟨by decide, _, .inr (.inl rfl)⟩

theorem lawfulHeader : LawfulHeader where
  newRequest_has {op uri m tag a} h ha := by
    cases uri with
    | none =>
      cases h
      exact header_has ha
    | some uri =>
      have hm : withText ⟨op.code, [⟨.operationAttributes, header⟩], []⟩ "printer-uri" .uri .uri
        (printerUri uri) = .ok m := h
      rw [withText_ok hm] at ha
      rcases IppRequestResponse.has_add.mp ha with ha | ⟨-, rfl⟩
      · exact header_has ha
      · exact ⟨by simp [headerNames], _, .inr (.inr rfl)⟩

/-- What the client relies on of `http::Uri` holds of the reference instance. -/
theorem lawfulUri : LawfulUri where
  parseUri_beforeFragment h := by
    refine parseUri_iff.mpr ?_
    rw [Text.beforeFirst, String.toList_ofList, List.takeWhile_idem]
    exact parseUri_iff.mp h
  parseUri_beforeQuery {text uri} h := by
    obtain ⟨uri', hp, hpath⟩ := (parseUri_iff.mp h).beforeQuery
    refine ⟨uri', parseUri_iff.mpr ?_, hpath⟩
    rw [Text.beforeFirst, String.toList_ofList, List.takeWhile_takeWhile]
    rw [List.takeWhile_takeWhile] at hp
    simpa only [and_comm] using hp
  parseUri_verbatim {text uri} h hf hs := by
    have hp := parseUri_iff.mp h
    rw [Text.takeWhile_of_not_mem hf] at hp
    cases hp with
    | absolute scheme authority tail htext hscheme ha hauthority ht huri =>
      refine ⟨String.ofList scheme ++ "://" ++ String.ofList authority, String.ofList tail, ?_,
        .inr ⟨_, _, rfl, ?_, ?_⟩, ?_⟩
      · rw [← String.toList_inj, htext]
        simp
      · rw [String.toList_ofList]
        exact fun hm => absurd (hscheme _ hm) (by decide)
      · rw [String.toList_ofList]
        exact fun hm => absurd (ha _ hm) (by decide)
      · rw [huri, ht.text, String.toList_ofList]
    | path hh ht huri =>
      refine ⟨"", text, by simp, .inl rfl, ?_⟩
      rw [huri, ht.text, String.ofList_toList]
  parseUri_path h _ := (parseUri_iff.mp h).path_chars
  uriText_eq h := ⟨_, (parseUri_iff.mp h).origin, rfl⟩
  parseUri_uriText {text uri uri'} h h' := by
    have hp := parseUri_iff.mp h
    -- Neither the text before the fragment nor what printing adds has a `#`.
    have hf : '#' ∉ (uriText uri).toList := by
      intro hm
      rcases hp.mem_uriText hm with hc | hc | hc | hc
      · exact absurd hc (by decide)
      · exact absurd hc (by decide)
      · exact absurd hc (by decide)
      · exact absurd (List.mem_takeWhile_imp hc) (by decide)
    have hself : parseUri (uriText uri) = .ok uri := by
      rw [parseUri_iff, Text.takeWhile_of_not_mem hf]
      exact uriText_parses hp
    exact Except.ok.inj (h'.symm.trans hself)
  printerUri_eq {text uri} h _ := by
    have hp := parseUri_iff.mp h
    cases huri : uri.authority with
    | some a =>
      refine ⟨"ipp://" ++ a.text, "", ?_, ?_, .inl rfl⟩
      · have ho := hp.origin
        simp only [originText, huri, String.toList_append, List.mem_append, not_or] at ho ⊢
        exact ⟨by decide, ho.2⟩
      · show printerUri uri = _
        rw [printerUri, huri, String.append_empty]
    | none =>
      refine ⟨originText uri, (uri.query.map fun q => "?" ++ q).getD "", hp.origin, ?_, ?_⟩
      · show printerUri uri = _
        rw [printerUri, huri, String.append_assoc]
        rfl
      · cases uri.query with
        | none => exact .inl rfl
        | some q => exact .inr (by simp)

end Lawful

end Ipp.Reference
