import IppClient.Subscription

/-!
# What each decoder reads of its group

A decoder reads some names as one value and others as a list, and nothing else. Each of the seven
is a function of those readings alone (`ReadsOnly`): two groups that read alike decode alike, a
failure included. What makes two groups read alike is for the users of this file to say.
-/

namespace Ipp

/-- The two views read alike: as one value on `scalars`, as a list on `lists`. -/
structure Attrs.Alike (scalars lists : List String) (a b : Attrs) : Prop where
  text : ∀ n ∈ scalars, a.text n = b.text n
  int : ∀ n ∈ scalars, a.int n = b.int n
  bool : ∀ n ∈ scalars, a.bool n = b.bool n
  texts : ∀ n ∈ lists, a.texts n = b.texts n
  ints : ∀ n ∈ lists, a.ints n = b.ints n

/-- Groups that agree on names read alike on them. -/
theorem Attrs.Agree.alike {names scalars lists : List String} {a b : Attrs}
    (h : Attrs.Agree names a b) (hs : scalars ⊆ names) (hl : lists ⊆ names) :
    Attrs.Alike scalars lists a b where
  text _ hn := h.text (hs hn)
  int _ hn := h.int (hs hn)
  bool _ hn := h.bool (hs hn)
  texts _ hn := h.texts (hl hn)
  ints _ hn := h.ints (hl hn)

/-- The decoder reads `scalars` as one value, `lists` as a list, and nothing else. -/
def ReadsOnly {α : Type} (scalars lists : List String)
    (decode : IppAttributeGroup → Except Error α) : Prop :=
  ∀ g g' : IppAttributeGroup, Attrs.Alike scalars lists ⟨g⟩ ⟨g'⟩ → decode g = decode g'

namespace Attrs.Alike

variable {scalars lists : List String} {a b : Attrs} {n : String}

theorem requireText (h : Attrs.Alike scalars lists a b) (hn : n ∈ scalars) :
    a.requireText n = b.requireText n := by
  simp only [Attrs.requireText, h.text n hn]

theorem requireInt (h : Attrs.Alike scalars lists a b) (hn : n ∈ scalars) :
    a.requireInt n = b.requireInt n := by
  simp only [Attrs.requireInt, h.int n hn]

end Attrs.Alike

section Decoders

variable {a b : Attrs}

/-- What `Printer::decode` reads as one value. -/
def Printer.scalars : List String :=
  ["printer-name", "printer-state", "device-uri", "printer-info", "printer-location",
    "printer-is-accepting-jobs", "media-default", "sides-default", "print-color-mode-default",
    "print-quality-default", "output-bin-default"]

/-- What `Printer::decode` reads as a list. -/
def Printer.lists : List String :=
  ["printer-uri-supported", "printer-state-reasons", "marker-names", "marker-levels",
    "marker-types", "marker-colors", "marker-low-levels", "media-supported", "sides-supported",
    "print-color-mode-supported", "print-quality-supported", "output-bin-supported"]

theorem PrinterOptions.decode_congr (h : Attrs.Alike Printer.scalars Printer.lists a b) :
    PrinterOptions.decode a = PrinterOptions.decode b := by
  unfold PrinterOptions.decode
  rw [h.texts "media-supported" (by decide), h.text "media-default" (by decide),
    h.texts "sides-supported" (by decide), h.text "sides-default" (by decide),
    h.texts "print-color-mode-supported" (by decide),
    h.text "print-color-mode-default" (by decide),
    h.ints "print-quality-supported" (by decide), h.int "print-quality-default" (by decide),
    h.texts "output-bin-supported" (by decide), h.text "output-bin-default" (by decide)]

theorem Printer.decode_reads : ReadsOnly Printer.scalars Printer.lists Printer.decode := by
  intro g g' h
  unfold Printer.decode
  simp only [h.requireText (n := "printer-name") (by decide),
    h.requireInt (n := "printer-state") (by decide), h.text "device-uri" (by decide),
    h.texts "printer-uri-supported" (by decide), h.text "printer-info" (by decide),
    h.text "printer-location" (by decide), h.texts "printer-state-reasons" (by decide),
    h.bool "printer-is-accepting-jobs" (by decide), h.texts "marker-names" (by decide),
    h.ints "marker-levels" (by decide), h.texts "marker-types" (by decide),
    h.texts "marker-colors" (by decide), h.ints "marker-low-levels" (by decide),
    PrinterOptions.decode_congr h]

/-- What `Job::decode` reads as one value. -/
def Job.scalars : List String :=
  ["job-id", "job-state", "job-printer-uri", "job-name", "job-originating-user-name",
    "job-impressions", "job-impressions-completed", "time-at-creation", "time-at-completed"]

theorem Job.decodeProgress_congr {lists : List String} (h : Attrs.Alike Job.scalars lists a b) :
    Job.decodeProgress a = Job.decodeProgress b := by
  unfold Job.decodeProgress
  rw [h.int "job-impressions" (by decide), h.int "job-impressions-completed" (by decide)]

theorem Job.decodeTime_congr {scalars lists : List String} {n : String}
    (h : Attrs.Alike scalars lists a b) (hn : n ∈ scalars) :
    Job.decodeTime a n = Job.decodeTime b n := by
  unfold Job.decodeTime
  rw [h.int n hn]

theorem Job.decode_reads : ReadsOnly Job.scalars ["job-state-reasons"] Job.decode := by
  intro g g' h
  unfold Job.decode
  simp only [h.requireInt (n := "job-id") (by decide), h.requireInt (n := "job-state") (by decide),
    h.text "job-printer-uri" (by decide), h.text "job-name" (by decide),
    h.text "job-originating-user-name" (by decide), h.texts "job-state-reasons" (by decide),
    Job.decodeProgress_congr h, Job.decodeTime_congr (n := "time-at-creation") h (by decide),
    h.int "job-impressions-completed" (by decide),
    Job.decodeTime_congr (n := "time-at-completed") h (by decide)]

theorem Class.decode_reads : ReadsOnly ["printer-name"] ["member-names"] Class.decode := by
  intro g g' h
  unfold Class.decode
  simp only [h.requireText (n := "printer-name") (by decide), h.texts "member-names" (by decide)]

theorem Ppd.decode_reads :
    ReadsOnly ["ppd-name", "ppd-make-and-model", "ppd-device-id"] [] Ppd.decode := by
  intro g g' h
  unfold Ppd.decode
  simp only [h.requireText (n := "ppd-name") (by decide), h.text "ppd-make-and-model" (by decide),
    h.text "ppd-device-id" (by decide)]

theorem Document.decode_reads :
    ReadsOnly ["document-number", "document-name", "document-format"] [] Document.decode := by
  intro g g' h
  unfold Document.decode
  simp only [h.requireInt (n := "document-number") (by decide), h.text "document-name" (by decide),
    h.text "document-format" (by decide)]

theorem Subscription.decode_reads :
    ReadsOnly
      ["notify-subscription-id", "notify-lease-duration", "notify-subscriber-user-name"]
      ["notify-events"] Subscription.decode := by
  intro g g' h
  unfold Subscription.decode
  simp only [h.requireInt (n := "notify-subscription-id") (by decide),
    h.texts "notify-events" (by decide), h.int "notify-lease-duration" (by decide),
    h.text "notify-subscriber-user-name" (by decide)]

theorem Notification.decode_reads :
    ReadsOnly
      ["notify-subscription-id", "notify-subscribed-event", "notify-job-id", "notify-text",
        "notify-sequence-number"]
      [] Notification.decode := by
  intro g g' h
  unfold Notification.decode
  simp only [h.requireInt (n := "notify-subscription-id") (by decide),
    h.text "notify-subscribed-event" (by decide), h.int "notify-job-id" (by decide),
    h.text "notify-text" (by decide), h.int "notify-sequence-number" (by decide)]

end Decoders

end Ipp
