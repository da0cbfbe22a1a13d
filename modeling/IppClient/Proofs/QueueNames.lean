import IppClient.Base.Percent
import IppClient.Proofs.Plans
import IppClient.Proofs.ReadingPaths

/-!
# Queue names and queue URIs

`printer_uri` writes a queue name into a URI as it is, and `printer_name_from_uri` reads back what
follows the last `/`. Neither knows of percent-encoding, queries or fragments. A server that reads
a `printer-uri` knows of queries, and it may decode what is encoded.

* `printerNameFromUri_eq_some`: what `printer_name_from_uri` returns of any text.
* `slash_mem_rest`: the last `/` of a queue's URI stands after its origin.
* `printerUri_of_fragment`: where the base has a fragment, every name has the same URI.
* `path_of_query`: where the base has a query, the URI of every name has the same path.
* `ActsOn.printer`: the `printer-uri` of every operation on a queue that is named.
* `queue_names_iff`: **names and URIs correspond, and operations by name reach the queue that they
  name, exactly when the client can address the names.**
* `job_names_queue_iff`: **a job names its queue as the queue does exactly when the name is its own
  percent-encoding.**
-/

namespace Ipp

open Base Percent

/-! ## The name in a URI -/

/-- The name is the last segment of the text, or all of it. -/
def IsLastSegment (text name : String) : Prop := text = name ∨ ∃ front, text = front ++ "/" ++ name

theorem printerNameFromUri_eq {uri name : String} (hne : name ≠ "") :
    printerNameFromUri uri = some name ↔ Text.afterLast uri '/' = name := by
  unfold printerNameFromUri
  dsimp only
  split
  · rename_i hs
    rw [hs]
    exact iff_of_false (by simp) (Ne.symm hne)
  · exact Option.some_inj

theorem printerNameFromUri_ne_empty {uri name : String} (h : printerNameFromUri uri = some name) :
    name ≠ "" := by
  unfold printerNameFromUri at h
  dsimp only at h
  split at h
  · cases h
  · rename_i hs
    exact Option.some.inj h ▸ hs

theorem afterLast_eq_iff {text name : String} (hs : '/' ∉ name.toList) :
    Text.afterLast text '/' = name ↔ IsLastSegment text name := by
  constructor
  · rintro rfl
    by_cases hm : '/' ∈ text.toList
    · have hcut : Text.rsplitOnce text '/' = some (_, Text.afterLast text '/') := if_pos hm
      exact .inr ⟨_, (Text.rsplitOnce_eq_some.mp hcut).1⟩
    · exact .inl (Text.afterLast_of_not_mem hm).symm
  · rintro (rfl | ⟨front, rfl⟩)
    · exact Text.afterLast_of_not_mem hs
    · have hslash : "/" ++ name = '/'.toString ++ name := rfl
      rw [String.append_assoc, Text.afterLast_append_of_mem (by simp), hslash, Text.afterLast_cons,
        Text.afterLast_of_not_mem hs]

/-- **What `printer_name_from_uri` returns**: the last segment, if it is not empty. -/
theorem printerNameFromUri_eq_some {uri name : String} :
    printerNameFromUri uri = some name ↔
      name ≠ "" ∧ '/' ∉ name.toList ∧ IsLastSegment uri name := by
  constructor
  · intro h
    have hne := printerNameFromUri_ne_empty h
    rw [printerNameFromUri_eq hne] at h
    have hs : '/' ∉ name.toList := h ▸ Text.not_mem_afterLast
    exact ⟨hne, hs, (afterLast_eq_iff hs).mp h⟩
  · rintro ⟨hne, hs, hl⟩
    rw [printerNameFromUri_eq hne, afterLast_eq_iff hs]
    exact hl

/-! ## The URI of a name -/

/-- The text `printer_uri` parses. -/
def queueUriText (base name : String) : String := base ++ "/printers/" ++ name

/-- The last `/` before the name is one of `/printers/`. -/
theorem afterLast_queueUriText (base name : String) :
    Text.afterLast (queueUriText base name) '/' = Text.afterLast name '/' := by
  have hcut : queueUriText base name = base ++ "/printers" ++ ('/'.toString ++ name) := by
    rw [queueUriText, ← String.toList_inj]
    simp
  rw [hcut, Text.afterLast_append_of_mem (by simp), Text.afterLast_cons]

/-- An origin has its two slashes side by side, and `/printers/` does not: the path begins before
the last one. -/
theorem slash_mem_rest {base name origin rest : String}
    (h : queueUriText base name = origin ++ rest) (ho : IsOrigin origin) : '/' ∈ rest.toList := by
  obtain rfl | ⟨scheme, authority, rfl, hscheme, hauthority⟩ := ho
  · rw [String.empty_append] at h
    rw [← h, queueUriText]
    simp
  · by_contra hrest
    have hl : base.toList ++ '/' :: ("printers/".toList ++ name.toList) =
        (scheme ++ ":").toList ++ '/' :: '/' :: (authority.toList ++ rest.toList) := by
      have := congrArg String.toList h
      rw [queueUriText] at this
      simpa using this
    by_cases hbase : '/' ∈ base.toList
    · -- The base has a third one.
      have hc := congrArg (List.count '/') hl
      have h1 := List.count_pos_iff.mpr hbase
      simp [List.count_eq_zero_of_not_mem, hscheme, hauthority, hrest] at hc
      omega
    · -- The character after the first one differs.
      have ho : '/' ∉ (scheme ++ ":").toList := by simp [hscheme]
      have hd := congrArg (List.dropWhile (· != '/')) hl
      rw [List.dropWhile_append_of_pos (Text.bne_of_not_mem hbase),
        List.dropWhile_append_of_pos (Text.bne_of_not_mem ho)] at hd
      simp at hd

/-! ## The queue that a server reads -/

/-- The queue that a server takes a printer URI for: what it reads the last segment of the path as. -/
def addressedQueue (r : SegmentReading) (text : String) : Option String :=
  (printerNameFromUri (Text.beforeFirst text '?')).map r.read

/-- What stands before the path, and a query after it, do not matter. -/
theorem addressedQueue_eq {r : SegmentReading} {origin path rest : String}
    (ho : '?' ∉ origin.toList)
    (hp : '/' ∈ path.toList ∧ '?' ∉ path.toList)
    (hr : rest = "" ∨ rest.toList.head? = some '?') :
    addressedQueue r (origin ++ path ++ rest) = (printerNameFromUri path).map r.read := by
  have hrest : Text.beforeFirst rest '?' = "" := by
    obtain rfl | hr := hr
    · rfl
    · rw [Text.beforeFirst]
      cases hl : rest.toList with
      | nil => rfl
      | cons c cs =>
        rw [hl] at hr
        obtain rfl := Option.some.inj hr
        rfl
  have hfront : '?' ∉ (origin ++ path).toList := by simp [ho, hp.2]
  rw [addressedQueue, Text.beforeFirst_append_of_not_mem hfront, hrest, String.append_empty,
    printerNameFromUri, printerNameFromUri, Text.afterLast_append_of_mem hp.1]

/-- The queue that a method of the client takes by name. -/
def ClientMethod.queue : ClientMethod → Option String
  | .job queue _ => some queue
  | .printer name => some name
  | .cancelJob queue _ => some queue
  | .holdJob queue _ => some queue
  | .releaseJob queue _ => some queue
  | .restartJob queue _ => some queue
  | .moveJob queue _ _ => some queue
  | .purgeJobs queue => some queue
  | .identifyPrinter queue _ => some queue
  | .validateJob queue _ => some queue
  | .printBytes queue _ _ _ => some queue
  | .printStream queue _ _ _ => some queue
  | .printFile queue _ => some queue
  | .defaultPrinter | .printers | .jobs _ | .classes | .ppds _ | .printerAt _ => none

/-! ## Addressing a queue -/

section Addressing

variable [IppCrate] {r : SegmentReading} {c : IppClient} {base user name name' : String}
  {uri uri' : Uri}

theorem printerUri_ok (h : c.printerUri name = .ok uri) :
    IppCrate.parseUri (queueUriText c.base name) = .ok uri := mapError_eq_ok.mp h

/-- Whatever the operation, a server reads this queue from the URI: from the `printer-uri` of the
request, and from the `job-printer-uri` of a move. -/
structure ReachesOnly (r : SegmentReading) (uri : Uri) (name : String) : Prop where
  operations : ∀ code, addressedQueue r (requestUri code uri) = some name
  destination : addressedQueue r (IppCrate.uriText uri) = some name

/-- The last segment of the path is read as the name. -/
def EndsAt (r : SegmentReading) (path name : String) : Prop :=
  ∃ segment, segment ≠ "" ∧ '/' ∉ segment.toList ∧ IsLastSegment path segment ∧
    r.read segment = name

omit [IppCrate] in
theorem endsAt_iff {path : String} :
    EndsAt r path name ↔ (printerNameFromUri path).map r.read = some name := by
  simp only [EndsAt, Option.map_eq_some_iff, printerNameFromUri_eq_some, and_assoc]

/-- The client can address the queue of this name. A name is not empty and has no `/`. A `#` in it
would begin a fragment, a `?` a query, and what is read as another text is encoded. A `#` or a `?` in
the base has already begun one: the path is then the client's own, whatever queue is asked for. -/
def IppClient.Addresses (r : SegmentReading) (c : IppClient) (name : String) : Prop :=
  name ≠ "" ∧ '/' ∉ name.toList ∧
    if '#' ∈ c.base.toList then
      IsLastSegment (IppCrate.uriText c.inner.uri) name ∧ EndsAt r c.inner.uri.path name
    else '#' ∉ name.toList ∧
      if '?' ∈ c.base.toList then EndsAt r c.inner.uri.path name
      else '?' ∉ name.toList ∧ r.read name = name

/-- An ordinary name is addressed through an ordinary base, however the server reads segments. -/
theorem IppClient.addresses_plain (hb : '#' ∉ c.base.toList ∧ '?' ∉ c.base.toList)
    (hne : name ≠ "") (hn : ∀ d ∈ ['/', '#', '?', '%'], d ∉ name.toList) : c.Addresses r name := by
  refine ⟨hne, hn _ (by decide), ?_⟩
  rw [if_neg hb.1, if_neg hb.2]
  exact ⟨hn _ (by decide), hn _ (by decide), r.verbatim name (hn _ (by decide))⟩

variable [LawfulUri]

/-- Where the base has a fragment, every name has the same URI. -/
theorem printerUri_of_fragment (hc : IppClient.withUri base user = .ok c)
    (hf : '#' ∈ c.base.toList) (hu : c.printerUri name = .ok uri) : uri = c.inner.uri := by
  obtain ⟨hparse, hbase⟩ := IppClient.withUri_ok hc
  obtain ⟨dropped, hdrop, -⟩ := Text.eq_trimEndMatches_append base '/'
  rw [← hbase] at hdrop
  have hq := LawfulUri.parseUri_beforeFragment (printerUri_ok hu)
  have hb := LawfulUri.parseUri_beforeFragment hparse
  rw [queueUriText, String.append_assoc, Text.beforeFirst_append_of_mem hf] at hq
  rw [hdrop, Text.beforeFirst_append_of_mem hf, hq] at hb
  exact Except.ok.inj hb

/-- Where the base has a query, the URI of every name has the same path. -/
theorem path_of_query (hc : IppClient.withUri base user = .ok c) (hq : '?' ∈ c.base.toList)
    (hu : c.printerUri name = .ok uri) : uri.path = c.inner.uri.path := by
  obtain ⟨hparse, hbase⟩ := IppClient.withUri_ok hc
  obtain ⟨dropped, hdrop, -⟩ := Text.eq_trimEndMatches_append base '/'
  rw [← hbase] at hdrop
  obtain ⟨v, hv, hpath⟩ := LawfulUri.parseUri_beforeQuery (printerUri_ok hu)
  obtain ⟨v', hv', hpath'⟩ := LawfulUri.parseUri_beforeQuery hparse
  rw [queueUriText, String.append_assoc, Text.beforeFirst_append_of_mem hq] at hv
  rw [hdrop, Text.beforeFirst_append_of_mem hq, hv] at hv'
  rw [← hpath, ← hpath', Except.ok.inj hv']

/-- The URI of a name without a fragment ends as the name does. -/
theorem afterLast_pathAndQuery (hf : '#' ∉ (queueUriText base name).toList)
    (h : IppCrate.parseUri (queueUriText base name) = .ok uri) :
    Text.afterLast uri.pathAndQuery '/' = Text.afterLast name '/' := by
  have hslash : '/' ∈ (queueUriText base name).toList := by simp [queueUriText]
  obtain ⟨origin, rest, htext, ho, hpath⟩ := LawfulUri.parseUri_verbatim h hf hslash
  have hrest := slash_mem_rest htext ho
  rw [← afterLast_queueUriText base name, htext, Text.afterLast_append_of_mem hrest, hpath]
  split
  · rfl
  · exact Text.afterLast_append_of_mem hrest

/-- The text before the fragment, where the base has none. -/
theorem queueUriText_beforeFragment (hf : '#' ∉ c.base.toList)
    (hu : c.printerUri name = .ok uri) :
    '#' ∉ (queueUriText c.base (Text.beforeFirst name '#')).toList ∧
      IppCrate.parseUri (queueUriText c.base (Text.beforeFirst name '#')) = .ok uri := by
  have hq := LawfulUri.parseUri_beforeFragment (printerUri_ok hu)
  have ht : Text.beforeFirst (queueUriText c.base name) '#' =
      queueUriText c.base (Text.beforeFirst name '#') :=
    Text.beforeFirst_append_of_not_mem (by simp [hf])
  exact ht ▸ ⟨Text.not_mem_beforeFirst, hq⟩

theorem path_of_printerUri (hu : c.printerUri name = .ok uri) :
    '/' ∈ uri.path.toList ∧ '?' ∉ uri.path.toList :=
  LawfulUri.parseUri_path (printerUri_ok hu) (by simp [queueUriText])

/-- Where the base has no fragment, the URI of a name ends as the name does before its own. -/
theorem afterLast_printerUri (hf : '#' ∉ c.base.toList) (hu : c.printerUri name = .ok uri) :
    Text.afterLast (IppCrate.uriText uri) '/' =
      Text.afterLast (Text.beforeFirst name '#') '/' := by
  obtain ⟨hfree, hq⟩ := queueUriText_beforeFragment hf hu
  obtain ⟨front, -, hfront⟩ := LawfulUri.uriText_eq hq
  have hslash : '/' ∈ uri.pathAndQuery.toList := by
    simp [Uri.pathAndQuery, (path_of_printerUri hu).1]
  rw [hfront, Text.afterLast_append_of_mem hslash, afterLast_pathAndQuery hfree hq]

/-- Where it has no query either, the path of that URI ends as the name does before both. -/
theorem afterLast_path (hf : '#' ∉ c.base.toList) (hq : '?' ∉ c.base.toList)
    (hu : c.printerUri name = .ok uri) :
    Text.afterLast uri.path '/' =
      Text.afterLast (Text.beforeFirst (Text.beforeFirst name '#') '?') '/' := by
  obtain ⟨hfree, hparse⟩ := queueUriText_beforeFragment hf hu
  obtain ⟨v, hv, hpath⟩ := LawfulUri.parseUri_beforeQuery hparse
  have ht : Text.beforeFirst (queueUriText c.base (Text.beforeFirst name '#')) '?' =
      queueUriText c.base (Text.beforeFirst (Text.beforeFirst name '#') '?') :=
    Text.beforeFirst_append_of_not_mem (by simp [hq])
  have hfree' : '#' ∉ (Text.beforeFirst (queueUriText c.base (Text.beforeFirst name '#'))
      '?').toList := mt Text.mem_of_mem_beforeFirst hfree
  have hquery : '?' ∉ (Text.beforeFirst (queueUriText c.base (Text.beforeFirst name '#'))
      '?').toList := Text.not_mem_beforeFirst
  rw [ht] at hv hfree' hquery
  -- Without a `?` in the text there is no query in its URI.
  obtain ⟨origin, rest, htext, -, hverbatim⟩ :=
    LawfulUri.parseUri_verbatim hv hfree' (by simp [queueUriText])
  have hnone : '?' ∉ v.pathAndQuery.toList := by
    rw [htext] at hquery
    simp only [String.toList_append, List.mem_append, not_or] at hquery
    rw [hverbatim]
    split
    · exact hquery.2
    · simpa using hquery.2
  have hv' : v.pathAndQuery = v.path := by
    cases hvq : v.query with
    | none => simp [Uri.pathAndQuery, hvq]
    | some q => simp [Uri.pathAndQuery, hvq] at hnone
  rw [← afterLast_pathAndQuery hfree' hv, hv', hpath]

/-- **The URI of a name reads back as the name** exactly when the name has nothing that the text
would cut off. -/
theorem printerNameFromUri_printerUri_iff (hf : '#' ∉ c.base.toList)
    (hu : c.printerUri name = .ok uri) :
    printerNameFromUri (IppCrate.uriText uri) = some name ↔
      name ≠ "" ∧ '/' ∉ name.toList ∧ '#' ∉ name.toList := by
  constructor
  · intro h
    have hne := printerNameFromUri_ne_empty h
    rw [printerNameFromUri_eq hne, afterLast_printerUri hf hu] at h
    have hs : '/' ∉ name.toList := h ▸ Text.not_mem_afterLast
    have hs' : '/' ∉ (Text.beforeFirst name '#').toList := mt Text.mem_of_mem_beforeFirst hs
    rw [Text.afterLast_of_not_mem hs'] at h
    exact ⟨hne, hs, h ▸ Text.not_mem_beforeFirst⟩
  · rintro ⟨hne, hs, hh⟩
    rw [printerNameFromUri_eq hne, afterLast_printerUri hf hu, Text.beforeFirst_of_not_mem hh,
      Text.afterLast_of_not_mem hs]

/-- A server reads the name exactly from URIs whose path ends at it. -/
theorem reachesOnly_iff (hu : c.printerUri name = .ok uri) :
    ReachesOnly r uri name ↔ EndsAt r uri.path name := by
  rw [endsAt_iff]
  have hslash : '/' ∈ (queueUriText c.base name).toList := by simp [queueUriText]
  obtain ⟨origin, ho, htext⟩ := LawfulUri.uriText_eq (printerUri_ok hu)
  have hquery : ((uri.query.map fun q => "?" ++ q).getD "") = "" ∨
      ((uri.query.map fun q => "?" ++ q).getD "").toList.head? = some '?' := by
    cases uri.query with
    | none => exact .inl rfl
    | some q => exact .inr (by simp)
  have hstruct : addressedQueue r (IppCrate.uriText uri) =
      (printerNameFromUri uri.path).map r.read := by
    rw [htext, Uri.pathAndQuery, ← String.append_assoc]
    exact addressedQueue_eq ho (path_of_printerUri hu) hquery
  obtain ⟨origin', rest, ho', htext', hrest⟩ := LawfulUri.printerUri_eq (printerUri_ok hu) hslash
  have hnew : addressedQueue r (IppCrate.printerUri uri) =
      (printerNameFromUri uri.path).map r.read := by
    rw [htext']
    exact addressedQueue_eq ho' (path_of_printerUri hu) hrest
  constructor
  · intro h
    rw [← hstruct, h.destination]
  · intro h
    refine ⟨fun code => ?_, hstruct.trans h⟩
    rw [requestUri]
    split
    · exact hstruct.trans h
    · exact hnew.trans h

/-- The URI reads back as the name, and operations reach the queue of that name, exactly when the
client can address it. -/
theorem addresses_iff (hc : IppClient.withUri base user = .ok c)
    (hu : c.printerUri name = .ok uri) :
    printerNameFromUri (IppCrate.uriText uri) = some name ∧ ReachesOnly r uri name ↔
      c.Addresses r name := by
  rw [reachesOnly_iff hu, IppClient.Addresses]
  by_cases hf : '#' ∈ c.base.toList
  · rw [if_pos hf, printerUri_of_fragment hc hf hu, printerNameFromUri_eq_some]
    tauto
  rw [if_neg hf, printerNameFromUri_printerUri_iff hf hu]
  by_cases hq : '?' ∈ c.base.toList
  · rw [if_pos hq, path_of_query hc hq hu]
    tauto
  rw [if_neg hq]
  -- The path ends as the name does before its own query.
  have hpath (hs : '/' ∉ name.toList) (hh : '#' ∉ name.toList) :
      Text.afterLast uri.path '/' = Text.beforeFirst name '?' := by
    rw [afterLast_path hf hq hu, Text.beforeFirst_of_not_mem hh,
      Text.afterLast_of_not_mem (mt Text.mem_of_mem_beforeFirst hs)]
  constructor
  · rintro ⟨⟨hne, hs, hh⟩, segment, -, hsegment, hlast, hread⟩
    obtain rfl : Text.beforeFirst name '?' = segment :=
      (hpath hs hh).symm.trans ((afterLast_eq_iff hsegment).mpr hlast)
    have hm : '?' ∉ name.toList := by
      intro hm
      -- What is cut off is not read again.
      have hlt := Text.length_beforeFirst_lt hm
      have hle := r.length_le (Text.beforeFirst name '?')
      rw [hread] at hle
      omega
    rw [Text.beforeFirst_of_not_mem hm] at hread
    exact ⟨hne, hs, hh, hm, hread⟩
  · rintro ⟨hne, hs, hh, hm, hread⟩
    refine ⟨⟨hne, hs, hh⟩, name, hne, hs, ?_, hread⟩
    rw [← afterLast_eq_iff hs, hpath hs hh, Text.beforeFirst_of_not_mem hm]

/-! ## The operations on a queue that is named -/

/-- An exchange of some run of an operation on the queue of this name: of a method of the client
that takes the name, of the handle that `queue` gives for it, or of a job opened from that. -/
inductive ActsOn (c : IppClient) (name : String) (e : Exchange Post Reply) : Prop where
  | method (method : ClientMethod) (hq : method.queue = some name) {w : World}
      {past : List (Exchange Post Reply)} {cell : Cache}
      (he : e ∈ (method.run c w past cell).trace)
  | handle {p : IppPrinter} (hp : c.queue name = .ok p) (method : PrinterMethod) {w : World}
      {past : List (Exchange Post Reply)} {cell : Cache}
      (he : e ∈ (method.run p w past cell).trace)
  | job {p : IppPrinter} {j : IppJob} (hp : c.queue name = .ok p) (hj : Opened p j)
      (method : JobMethod) {w : World} {past : List (Exchange Post Reply)} {cell : Cache}
      (he : e ∈ (method.run j w past cell).trace)

/-- The operations on the queue of this name send the texts of this URI: in the `printer-uri` of
each request, and in the `job-printer-uri` of a move to it. -/
structure Sends (c : IppClient) (name : String) (uri : Uri) : Prop where
  operations : ∀ e, ActsOn c name e → e.call.request.operation "printer-uri" =
    some (.uri (requestUri e.call.request.operationOrStatus uri))
  destination : ∀ queue id (w : World) past cell,
    ∀ e ∈ (c.moveJob queue id name w past cell).trace,
      e.call.request.lookup .jobAttributes "job-printer-uri" = some (.uri (IppCrate.uriText uri))

/-- The requests that a method makes on a queue are about its URI. -/
theorem ClientMethod.plan_printer {method : ClientMethod} (hq : method.queue = some name)
    (hu : c.printerUri name = .ok uri) {hd : Heading} (h : hd ∈ method.plan c) :
    hd.printer = some (.uri (requestUri hd.code uri)) := by
  have hnamed {code : Int16} (h : hd ∈ ClientMethod.plan.named c name code) :
      hd.printer = some (.uri (requestUri hd.code uri)) := by
    rw [named_plan c code hu, List.mem_singleton] at h
    rw [h]
    rfl
  have hsubmission (h : hd ∈ onUri (c.printerUri name) fun uri => submissionPlan uri c.user) :
      hd.printer = some (.uri (requestUri hd.code uri)) := by
    rw [hu] at h
    exact (addresses_submissionPlan h).printer
  cases method with
  | defaultPrinter | printers | jobs _ | classes | ppds _ | printerAt _ => cases hq
  | printer queue =>
    -- The URI is printed, and parsed once more.
    obtain rfl := Option.some.inj hq
    simp only [ClientMethod.plan, ClientMethod.plan.attributesOf, hu, onUri] at h
    cases hv : IppClient.parsePrinterUri (IppCrate.uriText uri) with
    | error e =>
      rw [hv] at h
      cases h
    | ok v =>
      rw [hv, List.mem_singleton] at h
      obtain rfl := LawfulUri.parseUri_uriText (printerUri_ok hu) (mapError_eq_ok.mp hv)
      rw [h]
      rfl
  | printStream queue _ _ _ | printFile queue _ =>
    obtain rfl := Option.some.inj hq
    exact hsubmission h
  | _ =>
    obtain rfl := Option.some.inj hq
    exact hnamed h

variable [LawfulIppCrate] [LawfulHeader]

omit [LawfulHeader] in
/-- **The `printer-uri` of an operation on a queue that is named.** -/
theorem ActsOn.printer {e : Exchange Post Reply} (hu : c.printerUri name = .ok uri)
    (h : ActsOn c name e) : e.call.request.operation "printer-uri" =
      some (.uri (requestUri e.call.request.operationOrStatus uri)) := by
  have hhandle {p : IppPrinter} (hp : c.queue name = .ok p) : p = ⟨c, uri⟩ := by
    obtain ⟨v, hv, hp⟩ := bind_eq_ok.mp hp
    cases hp
    rw [Except.ok.inj (hu.symm.trans hv)]
  cases h with
  | method method hq he => exact method.plan_printer hq hu ((method.run_follows c).mem he)
  | handle hp method he =>
    obtain rfl := hhandle hp
    exact (method.plan_addresses ((method.run_follows _).mem he)).printer
  | @job p j hp hj method _ _ _ he =>
    obtain rfl := hhandle hp
    obtain ⟨q, id, closed⟩ := j
    obtain rfl : q = ⟨c, uri⟩ := hj.printer_eq
    exact (method.plan_addresses ((method.run_follows _).mem he)).printer

omit [LawfulUri] in
/-- The job group of a move names the destination alone. -/
theorem moveJobRequest_destination {queue : String} {id : JobId} {m : IppRequestResponse}
    (hu : c.printerUri name = .ok uri) (h : c.moveJobRequest queue id name = .ok m) :
    m.lookup .jobAttributes "job-printer-uri" = some (.uri (IppCrate.uriText uri)) := by
  obtain ⟨source, -, h⟩ := bind_eq_ok.mp h
  obtain ⟨m₀, h₀, h⟩ := bind_eq_ok.mp h
  obtain ⟨target, htarget, h⟩ := bind_eq_ok.mp h
  obtain ⟨v, hv, h⟩ := bind_eq_ok.mp h
  obtain rfl : uri = target := Except.ok.inj (hu.symm.trans htarget)
  obtain rfl := bounded_ok hv
  obtain rfl := addAttribute_ok h
  have hnone : m₀.lookup .jobAttributes "job-printer-uri" = none := by
    obtain ⟨n₀, hn₀, h₀⟩ := bind_eq_ok.mp h₀
    obtain ⟨user, -, h₀⟩ := bind_eq_ok.mp h₀
    obtain ⟨n₁, hn₁, h₀⟩ := bind_eq_ok.mp h₀
    obtain rfl := addAttribute_ok hn₁
    obtain rfl := addAttribute_ok h₀
    rw [IppRequestResponse.lookup_add_ne (by decide), IppRequestResponse.lookup_add_ne (by decide)]
    exact newRequest_lookup (mapError_eq_ok.mp hn₀) _ (by decide)
  rw [IppRequestResponse.lookup_add_self, hnone, if_pos rfl]
  rfl

theorem sends_of_printerUri (hu : c.printerUri name = .ok uri) : Sends c name uri where
  operations _ he := he.printer hu
  destination queue id w past cell := by
    have h : Act.Emits (fun e => e.call.request.lookup .jobAttributes "job-printer-uri" =
        some (.uri (IppCrate.uriText uri))) (c.moveJob queue id name) :=
      request_emits c (fun _ hm _ => moveJobRequest_destination hu hm) fun _ => Act.Emits.pure ()
    exact h w past cell

/-- **Operations reach the queue they name exactly when the client can address it.** The operations
on a queue send the texts of its URI. The URIs of two queues read back as their names, are two if
the names are, and are read by a server as the queues of these names whatever the operation,
exactly when the client can address both. -/
theorem queue_names_iff (r : SegmentReading) (hc : IppClient.withUri base user = .ok c)
    (hu : c.printerUri name = .ok uri) (hu' : c.printerUri name' = .ok uri') :
    (Sends c name uri ∧ Sends c name' uri') ∧
    ((printerNameFromUri (IppCrate.uriText uri) = some name ∧
        printerNameFromUri (IppCrate.uriText uri') = some name' ∧ (name ≠ name' → uri ≠ uri') ∧
        ReachesOnly r uri name ∧ ReachesOnly r uri' name') ↔
      c.Addresses r name ∧ c.Addresses r name') := by
  refine ⟨⟨sends_of_printerUri hu, sends_of_printerUri hu'⟩, ?_⟩
  rw [← addresses_iff hc hu, ← addresses_iff hc hu']
  constructor
  · rintro ⟨h, h', -, hr, hr'⟩
    exact ⟨⟨h, hr⟩, h', hr'⟩
  · rintro ⟨⟨h, hr⟩, h', hr'⟩
    refine ⟨h, h', fun hne heq => hne ?_, hr, hr'⟩
    rw [heq, h'] at h
    exact (Option.some.inj h).symm

end Addressing

/-! ## The queues of the local daemon -/

section Reference

attribute [local instance] Reference.crate

/-- The URI of the queue `Brother`. -/
def brotherUri : Uri where
  scheme := some "http"
  authority := some ⟨"localhost:631", "localhost", some 631⟩
  path := "/printers/Brother"
  query := none

theorem queue_names_iff_twoQueues :
    (Sends localClient "HP" hpUri ∧ Sends localClient "Brother" brotherUri) ∧
      printerNameFromUri (IppCrate.uriText hpUri) = some "HP" ∧
      printerNameFromUri (IppCrate.uriText brotherUri) = some "Brother" ∧
      ("HP" ≠ "Brother" → hpUri ≠ brotherUri) ∧
      ReachesOnly .identity hpUri "HP" ∧ ReachesOnly .identity brotherUri "Brother" := by
  have := Reference.lawful
  have := Reference.lawfulHeader
  have := Reference.lawfulUri
  have hp : localClient.printerUri "HP" = .ok hpUri := rfl
  have hb : localClient.printerUri "Brother" = .ok brotherUri := rfl
  obtain ⟨hsends, hiff⟩ := queue_names_iff .identity localClient_built hp hb
  have hbase : '#' ∉ localClient.base.toList ∧ '?' ∉ localClient.base.toList := by decide
  exact ⟨hsends, hiff.mpr ⟨localClient.addresses_plain hbase (by decide) (by simp),
    localClient.addresses_plain hbase (by decide) (by simp)⟩⟩

/-- A name with `#` has the URI of another queue, and purging it purges that one. A name with `?`
reads back, but its requests are about another queue as well. -/
theorem fragment_names_other_queue :
    IppClient.withUri "http://localhost:631" "tester" = .ok localClient ∧
      localClient.printerUri "HP#old" = .ok hpUri ∧ localClient.printerUri "HP" = .ok hpUri ∧
      printerNameFromUri (IppCrate.uriText hpUri) = some "HP" ∧
      localClient.purgeJobs "HP#old" = localClient.purgeJobs "HP" ∧
      ∃ oldUri, localClient.printerUri "HP?old" = .ok oldUri ∧
        printerNameFromUri (IppCrate.uriText oldUri) = some "HP?old" ∧
        requestUri Operation.cancelJob.code oldUri = requestUri Operation.cancelJob.code hpUri ∧
        addressedQueue .identity (requestUri Operation.purgeJobs.code oldUri) = some "HP" := by
  have hold : localClient.printerUri "HP#old" = .ok hpUri := rfl
  have hp : localClient.printerUri "HP" = .ok hpUri := rfl
  have hquery : localClient.printerUri "HP?old" = .ok { hpUri with query := some "old" } := rfl
  refine ⟨localClient_built, hold, hp, by decide, ?_, _, hquery, by decide, by decide, by decide⟩
  rw [IppClient.purgeJobs, hold, IppClient.purgeJobs, hp]

end Reference

/-! ## The queue of a job -/

section Jobs

variable {printerGroup jobGroup : IppAttributeGroup} {p : Printer} {j : Job} {name front : String}

theorem Job.decode_printer (h : Job.decode jobGroup = .ok j) :
    j.printer = ((Attrs.text ⟨jobGroup⟩ "job-printer-uri").bind printerNameFromUri).getD "" := by
  obtain ⟨id, -, h⟩ := bind_eq_ok.mp h
  obtain ⟨value, -, h⟩ := bind_eq_ok.mp h
  obtain ⟨state, -, h⟩ := bind_eq_ok.mp h
  cases h
  rfl

/-- The name that a job reads from the URI of its queue is the encoded one. -/
theorem Job.decode_encoded (e : SegmentEncoding) (hne : name ≠ "")
    (hu : Attrs.text ⟨jobGroup⟩ "job-printer-uri" = some (front ++ "/" ++ e.encode name))
    (h : Job.decode jobGroup = .ok j) : j.printer = e.encode name := by
  have hname : printerNameFromUri (front ++ "/" ++ e.encode name) = some (e.encode name) :=
    printerNameFromUri_eq_some.mpr ⟨SegmentEncoding.encode_ne_empty hne,
      SegmentEncoding.slash_not_mem_encode name, .inr ⟨front, rfl⟩⟩
  rw [Job.decode_printer h, hu, Option.bind_some, hname, Option.getD_some]

/-- **A job names its queue as the queue does exactly when the name is its own encoding**: when the
encoding of path segments leaves every character of it. -/
theorem job_names_queue_iff (e : SegmentEncoding) (hne : name ≠ "")
    (hn : Attrs.text ⟨printerGroup⟩ "printer-name" = some name)
    (hu : Attrs.text ⟨jobGroup⟩ "job-printer-uri" = some (front ++ "/" ++ e.encode name))
    (hp : Printer.decode printerGroup = .ok p) (hj : Job.decode jobGroup = .ok j) :
    j.printer = p.name ↔ ∀ c ∈ name.toList, e.keeps c = true := by
  rw [Printer.decode_name hn hp, Job.decode_encoded e hne hu hj, SegmentEncoding.encode_eq_self_iff]

/-- A queue, idle. -/
def queueNamed (name : String) : IppAttributeGroup :=
  ⟨.printerAttributes,
    [⟨"printer-name", .nameWithoutLanguage name⟩, ⟨"printer-state", .enum 3⟩]⟩

/-- A pending job of the queue at a URI. -/
def jobAt (uri : String) : IppAttributeGroup :=
  ⟨.jobAttributes,
    [⟨"job-id", .integer 7⟩, ⟨"job-printer-uri", .uri uri⟩, ⟨"job-state", .enum 3⟩]⟩

/-- The job of the queue `Büro` names another queue. -/
theorem encodedName_differs :
    ∃ p j, SegmentEncoding.strict.encode "Büro" = "B%C3%BCro" ∧
      Printer.decode (queueNamed "Büro") = .ok p ∧
      Job.decode (jobAt "ipp://localhost:631/printers/B%C3%BCro") = .ok j ∧
      p.name = "Büro" ∧ j.printer = "B%C3%BCro" :=
  ⟨_, _, by decide, rfl, rfl, by decide, by decide⟩

theorem job_names_queue_iff_HP :
    ∃ p j, Printer.decode (queueNamed "HP") = .ok p ∧
      Job.decode (jobAt "ipp://localhost:631/printers/HP") = .ok j ∧
      (j.printer = p.name ↔ ∀ c ∈ "HP".toList, SegmentEncoding.strict.keeps c = true) := by
  have hu : Attrs.text ⟨jobAt "ipp://localhost:631/printers/HP"⟩ "job-printer-uri" =
      some ("ipp://localhost:631/printers" ++ "/" ++ SegmentEncoding.strict.encode "HP") := by
    decide
  have hn : Attrs.text ⟨queueNamed "HP"⟩ "printer-name" = some "HP" := rfl
  obtain ⟨p, hp⟩ : ∃ p, Printer.decode (queueNamed "HP") = .ok p := ⟨_, rfl⟩
  obtain ⟨j, hj⟩ : ∃ j, Job.decode (jobAt "ipp://localhost:631/printers/HP") = .ok j := ⟨_, rfl⟩
  exact ⟨p, j, hp, hj, job_names_queue_iff .strict (by decide) hn hu hp hj⟩

end Jobs

end Ipp
