import IppClient.Client.Handle

/-!
# Which failures read as a rejected certificate

`Error::is_certificate_error` says that the peer's certificate was not accepted, and looks for the
word in the texts of an error and of its causes. The errors that the crate builds before any
connection, and those it builds from what it has read, quote the texts they were given.

* `LocalFailure e texts`: `e` is such an error, built from `texts`.
* `LocalFailure.mentions_iff`: the error mentions a certificate exactly when one of those does.
* `certificate_error_iff`: **`is_certificate_error` is false for such an error exactly when no text
  it was given mentions a certificate.**
-/

namespace Ipp

open Base

/-- The text has one of the two words that are looked for. -/
def MentionsCertificate (t : String) : Prop :=
  Text.contains t "certificate" = true ∨ Text.contains t "CertificateError" = true

instance (t : String) : Decidable (MentionsCertificate t) := inferInstanceAs (Decidable (_ ∨ _))

theorem isCertificateError_eq_false {e : Error} :
    e.isCertificateError = false ↔ ∀ t ∈ e.texts, ¬MentionsCertificate t := by
  unfold Error.isCertificateError MentionsCertificate
  simp only [List.any_eq_false, Bool.or_eq_true]

/-! ## A message and the texts it quotes -/

section Messages

variable {a b : String}

/-- Neither word spans a character that is in neither, such as a blank or a colon. -/
theorem mentions_append_char {c : Char} (h : c ∉ "certificate".toList)
    (h' : c ∉ "CertificateError".toList) :
    MentionsCertificate (a ++ c.toString ++ b) ↔
      MentionsCertificate a ∨ MentionsCertificate b := by
  unfold MentionsCertificate
  rw [Text.contains_append_char h, Text.contains_append_char h']
  simp only [Bool.or_eq_true]
  exact or_or_or_comm

/-- A message that quotes a text after a fixed beginning, which ends in a blank. -/
theorem mentions_quote (fixed : String) (h : ¬MentionsCertificate fixed) :
    MentionsCertificate (fixed ++ " " ++ a) ↔ MentionsCertificate a := by
  have hq : fixed ++ " " ++ a = fixed ++ ' '.toString ++ a := rfl
  rw [hq, mentions_append_char (by decide) (by decide), or_iff_right h]

/-- A message that quotes two texts, a colon between them. -/
theorem mentions_quote_two (fixed : String) (h : ¬MentionsCertificate fixed) :
    MentionsCertificate (fixed ++ " " ++ a ++ ": " ++ b) ↔
      MentionsCertificate a ∨ MentionsCertificate b := by
  have hq : fixed ++ " " ++ a ++ ": " ++ b =
      (fixed ++ " " ++ a) ++ ':'.toString ++ ("" ++ " " ++ b) := by
    rw [← String.toList_inj]
    simp
  rw [hq, mentions_append_char (by decide) (by decide), mentions_quote fixed h,
    mentions_quote "" (by decide)]

end Messages

/-! ## The errors the crate builds itself -/

section

variable [IppCrate]

/-- An error that the crate builds with no TLS exchange behind it, and the texts it is given: the
URI or the queue name that does not parse and what the parser says of it, the attribute and what is
wrong with it, the operation and the status it was refused with, the failure of the file system. -/
inductive LocalFailure : Error → List String → Prop where
  | withUri {uri user reason : String} {e : Error} (hr : IppCrate.parseUri uri = .error reason)
      (h : IppClient.withUri uri user = .error e) : LocalFailure e [uri, reason]
  | build {b : IppClientBuilder} {envUser : Option String} {reason : String} {e : Error}
      (hr : IppCrate.parseUri b.uri = .error reason) (h : b.build envUser = .error e) :
      LocalFailure e [b.uri, reason]
  | atUri {c : IppClient} {uri reason : String} {e : Error}
      (hr : IppCrate.parseUri uri = .error reason) (h : c.atUri uri = .error e) :
      LocalFailure e [uri, reason]
  | printerAt {c : IppClient} {uri reason : String} {e : Error} {w : World}
      {past : List (Exchange Post Reply)} {cell : Cache}
      (hr : IppCrate.parseUri uri = .error reason)
      (h : (c.printerAt uri w past cell).result = .error e) : LocalFailure e [uri, reason]
  | printerUri {c : IppClient} {name reason : String} {e : Error}
      (hr : IppCrate.parseUri s!"{c.base}/printers/{name}" = .error reason)
      (h : c.printerUri name = .error e) : LocalFailure e [name, reason]
  | decode (attributeName detail : String) :
      LocalFailure (.decode attributeName detail) [attributeName, detail]
  | refused {resp : IppRequestResponse} {op : String} {e : Error}
      (h : IppClient.checkStatus resp op = .error e) :
      LocalFailure e [op, IppCrate.statusText resp.operationOrStatus]
  | openFile {path : Path} {w : World} {past : List (Exchange Post Reply)} {cell : Cache}
      {source : ForeignError} {e : Error} (hs : w.openFile path = .error source)
      (h : (IppClient.openFile path w past cell).result = .error e) :
      LocalFailure e (source.text :: source.causes)

omit [IppCrate] in
theorem forall_mem_pair {α : Type} {p : α → Prop} {a b : α} :
    (∀ x ∈ [a, b], p x) ↔ p a ∧ p b := by
  rw [List.forall_mem_cons, List.forall_mem_singleton]

omit [IppCrate] in
/-- An error about a URI: what it mentions it was given. -/
theorem badUri_iff (fixed : String) {x reason : String}
    (h : ¬MentionsCertificate ("cannot reach the print service: " ++ fixed)) :
    (Error.transportMsg (fixed ++ " " ++ x ++ ": " ++ reason)).isCertificateError = false ↔
      ∀ t ∈ [x, reason], ¬MentionsCertificate t := by
  have ht : (Error.transportMsg (fixed ++ " " ++ x ++ ": " ++ reason)).texts =
      [("cannot reach the print service: " ++ fixed) ++ " " ++ x ++ ": " ++ reason] := by
    simp only [Error.texts, Error.transportMsg, Error.source, Option.map_none, Option.getD_none]
    congr 1
  rw [isCertificateError_eq_false, ht, forall_mem_pair, List.forall_mem_singleton,
    mentions_quote_two _ h, not_or]

/-- **`is_certificate_error` goes by the texts it is given.** For an error with no TLS exchange
behind it, it is false exactly when none of them mentions a certificate. -/
theorem certificate_error_iff {e : Error} {texts : List String} (h : LocalFailure e texts) :
    e.isCertificateError = false ↔ ∀ t ∈ texts, ¬MentionsCertificate t := by
  cases h with
  | withUri hr h =>
    rw [IppClient.withUri, hr] at h
    cases h
    exact badUri_iff "bad CUPS uri" (by decide)
  | build hr h =>
    rw [IppClientBuilder.build, hr] at h
    cases h
    exact badUri_iff "bad uri" (by decide)
  | atUri hr h =>
    rw [IppClient.atUri, IppClient.parsePrinterUri, hr] at h
    cases h
    exact badUri_iff "bad printer uri" (by decide)
  | printerAt hr h =>
    rw [IppClient.printerAt, IppClient.parsePrinterUri, hr] at h
    cases h
    exact badUri_iff "bad printer uri" (by decide)
  | printerUri hr h =>
    rw [IppClient.printerUri, hr] at h
    cases h
    exact badUri_iff "bad printer uri for" (by decide)
  | decode attributeName detail =>
    have ht : (Error.decode attributeName detail).texts =
        ["cannot decode attribute" ++ " " ++ attributeName ++ ": " ++ detail] := rfl
    rw [isCertificateError_eq_false, ht, forall_mem_pair, List.forall_mem_singleton,
      mentions_quote_two "cannot decode attribute" (by decide), not_or]
  | @refused resp op e h =>
    unfold IppClient.checkStatus at h
    split at h
    · cases h
    · cases h
      have ht : (Error.ipp op (IppCrate.statusText resp.operationOrStatus)).texts =
          [op ++ ' '.toString ++ ("was refused with" ++ " " ++
            IppCrate.statusText resp.operationOrStatus)] := by
        have hfixed : " was refused with " = ' '.toString ++ ("was refused with" ++ " ") := rfl
        show [op ++ " was refused with " ++ IppCrate.statusText resp.operationOrStatus] = _
        rw [hfixed, String.append_assoc, String.append_assoc, String.append_assoc,
          String.append_assoc]
      rw [isCertificateError_eq_false, ht, forall_mem_pair, List.forall_mem_singleton,
        mentions_append_char (by decide) (by decide),
        mentions_quote "was refused with" (by decide), not_or]
  | @openFile path w past cell source e hs h =>
    have he : e = .io source := by
      have ho : (IppClient.openFile path w past cell).result =
          (w.openFile path).mapError Error.io := rfl
      rw [ho, hs] at h
      cases h
      rfl
    subst he
    have ht : (Error.io source).texts =
        ("io error:" ++ " " ++ source.text) :: source.text :: source.causes := rfl
    rw [isCertificateError_eq_false, ht, List.forall_mem_cons,
      mentions_quote "io error:" (by decide)]
    -- The message adds nothing to the text of the cause.
    exact and_iff_right_of_imp fun hall => hall _ List.mem_cons_self

end

/-! ## A queue name that is no path of a URI -/

section Reference

attribute [local instance] Reference.crate

/-- What `printer_uri` says of a queue name that does not parse. -/
def badQueueName (name reason : String) : Error :=
  .transportMsg s!"bad printer uri for {name}: {reason}"

theorem laserPrinter_fails :
    LocalFailure (badQueueName "laser printer" "invalid uri character")
      ["laser printer", "invalid uri character"] :=
  .printerUri (c := localClient) rfl rfl

theorem certificate_error_iff_laserPrinter :
    (badQueueName "laser printer" "invalid uri character").isCertificateError = false ↔
      ∀ t ∈ ["laser printer", "invalid uri character"], ¬MentionsCertificate t :=
  certificate_error_iff laserPrinter_fails

theorem certificatePrinter_fails :
    LocalFailure (badQueueName "certificate printer" "invalid uri character")
      ["certificate printer", "invalid uri character"] :=
  .printerUri (c := localClient) rfl rfl

/-- A queue that is called after certificates: its bad name reads as a rejected certificate. -/
theorem certificatePrinter_misread :
    ¬ ∀ (e : Error) (texts : List String), LocalFailure e texts →
      e.isCertificateError = false := by
  intro h
  have hm := h _ _ certificatePrinter_fails
  revert hm
  decide

end Reference

end Ipp
