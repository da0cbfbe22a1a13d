import IppClient.Base.Except
import IppClient.Base.Text
import IppClient.Wire.Crate

/-!
# The text of a URI

Parsing and printing `http::Uri`, for `IppClient.Wire.Reference`: URIs of the forms
`scheme://authority/path?query` and `/path?query`.

* `Parses`: what a text is made of, and what its parse keeps of it.
* `parseUri_iff`: a text parses exactly if it is made so, before its fragment.
* `uriText_parses`: a URI that was parsed is printed as a text that parses to it.
-/

namespace Ipp.Reference

open Base

/-! ## URIs -/

/-- A character of a scheme. -/
def isSchemeChar (c : Char) : Bool := c.isAlphanum || c == '+' || c == '-' || c == '.'

/-- The scheme and the characters after its `://`. -/
def splitScheme : List Char → Option (List Char × List Char)
  | [] => none
  | c :: cs =>
    if [':', '/', '/'].isPrefixOf (c :: cs) then some ([], cs.drop 2)
    else if isSchemeChar c then (splitScheme cs).map fun (scheme, rest) => (c :: scheme, rest)
    else none

/-- A scheme as it is kept: the two that the crate knows are in lower case. -/
def schemeText (cs : List Char) : String :=
  let lower := String.ofList (cs.map Char.toLower)
  if lower = "http" ∨ lower = "https" then lower else String.ofList cs

/-- A character of an authority. -/
def isAuthorityChar (c : Char) : Bool :=
  c.isAlphanum || "!$%&'()*+,-.:;=@[]_~".toList.contains c

/-- `host` or `host:port`, after user information or none. -/
def parseAuthority (cs : List Char) : Except String Authority :=
  let text := String.ofList cs
  let hostPort := Text.afterLast text '@'
  if cs = [] ∨ !cs.all isAuthorityChar then .error "invalid authority"
  else if hostPort.toList.getLast? = some ']' then .ok ⟨text, hostPort, none⟩
  else match Text.rsplitOnce hostPort ':' with
    | none => .ok ⟨text, hostPort, none⟩
    | some (host, port) =>
      .ok ⟨text, host, (Text.parseU32 port).bind fun n =>
        if n < UInt16.size then some (UInt16.ofNat n) else none⟩

/-- A character of a path: none of `#`, `<`, `>` and `?`, no backtick, space or control, and beyond
ASCII every character. -/
def isPathChar (c : Char) : Bool :=
  let n := c.toNat
  n == 0x21 || n == 0x22 || (0x24 ≤ n && n ≤ 0x3B) || n == 0x3D || (0x40 ≤ n && n ≤ 0x5F) ||
    0x61 ≤ n

/-- A character of a query, which may have a `?` and a backtick, and no `"`. -/
def isQueryChar (c : Char) : Bool :=
  let n := c.toNat
  n == 0x21 || (0x24 ≤ n && n ≤ 0x3B) || n == 0x3D || 0x3F ≤ n

/-- A path and the query after it. -/
def pathAndQuery (cs : List Char) : String × Option String :=
  let path := cs.takeWhile (· != '?')
  let query := cs.drop (path.length + 1)
  (if path = [] then "/" else String.ofList path,
    if path.length < cs.length then some (String.ofList query) else none)

/-- The parse of a path and a query. -/
def parsePathAndQuery (cs : List Char) : Except String (String × Option String) :=
  if (cs.takeWhile (· != '?')).all isPathChar && (cs.dropWhile (· != '?')).all isQueryChar then
    .ok (pathAndQuery cs)
  else .error "invalid uri character"

/-- The character ends an authority. -/
def endsAuthority (c : Char) : Bool := c == '/' || c == '?'

/-- The parse of a URI: what stands before its fragment. -/
def parseUri (text : String) : Except String Uri :=
  let cs := text.toList.takeWhile (· != '#')
  match splitScheme cs with
  | some (scheme, rest) => do
    let authority ← parseAuthority (rest.takeWhile (!endsAuthority ·))
    let (path, query) ← parsePathAndQuery (rest.dropWhile (!endsAuthority ·))
    return { scheme := some (schemeText scheme), authority := some authority, path, query }
  | none =>
    if cs.head? = some '/' then do
      let (path, query) ← parsePathAndQuery cs
      return { scheme := none, authority := none, path, query }
    else .error "invalid format"

/-- What stands before the path of a URI. -/
def originText (u : Uri) : String :=
  ((u.scheme.map fun s => s ++ "://").getD "") ++ ((u.authority.map (·.text)).getD "")

/-- The text of a URI. -/
def uriText (u : Uri) : String := originText u ++ u.pathAndQuery

/-- The `printer-uri` of `IppRequestResponse::new`: the URI under the scheme `ipp`, without its
query. A URI without an authority stays as it is. -/
def printerUri (u : Uri) : String :=
  match u.authority with
  | some a => "ipp://" ++ a.text ++ u.path
  | none => uriText u

/-- The port of a URI that names none. -/
def defaultPort : Option String → Option UInt16
  | some "http" => some 80
  | some "https" => some 443
  | some "ipp" => some 631
  | some "ipps" => some 443
  | _ => none

/-! ## What parsing keeps -/

section Uris

variable {cs scheme rest : List Char} {route : String} {query : Option String}

theorem splitScheme_eq (h : splitScheme cs = some (scheme, rest)) :
    cs = scheme ++ ':' :: '/' :: '/' :: rest ∧ ∀ c ∈ scheme, isSchemeChar c = true := by
  induction cs generalizing scheme with
  | nil => cases h
  | cons c cs ih =>
    unfold splitScheme at h
    split at h
    · rename_i hp
      obtain ⟨t, ht⟩ := List.isPrefixOf_iff_prefix.mp hp
      cases ht
      cases h
      exact ⟨rfl, by simp⟩
    · split at h
      · rename_i hc
        obtain ⟨⟨s, r⟩, hs, he⟩ := Option.map_eq_some_iff.mp h
        cases he
        obtain ⟨rfl, hn⟩ := ih hs
        exact ⟨rfl, List.forall_mem_cons.mpr ⟨hc, hn⟩⟩
      · cases h

theorem splitScheme_append (h : ∀ c ∈ scheme, isSchemeChar c = true) :
    splitScheme (scheme ++ ':' :: '/' :: '/' :: rest) = some (scheme, rest) := by
  induction scheme with
  | nil => simp [splitScheme]
  | cons c scheme ih =>
    obtain ⟨hc, hs⟩ := List.forall_mem_cons.mp h
    have hne : c ≠ ':' := by
      rintro rfl
      exact absurd hc (by decide)
    rw [List.cons_append, splitScheme, if_neg (by simp [Ne.symm hne]), if_pos hc, ih hs]
    rfl

/-- A path starts with `/`, and is no scheme. -/
theorem splitScheme_slash (h : cs.head? = some '/') : splitScheme cs = none := by
  cases cs with
  | nil => cases h
  | cons c cs =>
    obtain rfl := Option.some.inj h
    rw [splitScheme, if_neg (by simp), if_neg (by decide)]

/-- A scheme is kept up to case, and is one that is kept as it is. -/
theorem schemeText_keeps (h : ∀ c ∈ scheme, isSchemeChar c = true) :
    (∀ c ∈ (schemeText scheme).toList, isSchemeChar c = true) ∧
      schemeText (schemeText scheme).toList = schemeText scheme := by
  by_cases hl : String.ofList (scheme.map Char.toLower) = "http" ∨
      String.ofList (scheme.map Char.toLower) = "https"
  · have hs : schemeText scheme = String.ofList (scheme.map Char.toLower) := if_pos hl
    have hchars (known : String) (hknown : known.toList.all isSchemeChar = true) :
        ∀ c ∈ known.toList, isSchemeChar c = true := List.all_eq_true.mp hknown
    rw [hs]
    obtain hl | hl := hl
    · exact hl ▸ ⟨hchars "http" (by decide), by decide⟩
    · exact hl ▸ ⟨hchars "https" (by decide), by decide⟩
  · have hs : schemeText scheme = String.ofList scheme := if_neg hl
    rw [hs, String.toList_ofList]
    exact ⟨h, hs⟩

theorem parseAuthority_text {a : Authority} (h : parseAuthority cs = .ok a) :
    a.text = String.ofList cs := by
  unfold parseAuthority at h
  dsimp only at h
  split at h
  · cases h
  split at h
  · cases h
    rfl
  split at h <;> cases h <;> rfl

/-- The path and the query of a text that is nothing, or starts with one of them. -/
structure Splits (cs : List Char) (route : String) (query : Option String) : Prop where
  parse : parsePathAndQuery cs = .ok (route, query)
  head : ∀ c, cs.head? = some c → endsAuthority c = true

theorem drop_length_takeWhile (p : Char → Bool) (cs : List Char) :
    cs.drop (cs.takeWhile p).length = cs.dropWhile p := by
  have h : (cs.takeWhile p ++ cs.dropWhile p).drop (cs.takeWhile p).length = cs.dropWhile p :=
    List.drop_left
  rwa [List.takeWhile_append_dropWhile] at h

/-- The query is what stands from the first `?`. -/
theorem pathAndQuery_query :
    ((pathAndQuery cs).2.map fun q => "?" ++ q).getD "" =
      String.ofList (cs.dropWhile (· != '?')) := by
  have hcut : cs.takeWhile (· != '?') ++ cs.dropWhile (· != '?') = cs :=
    List.takeWhile_append_dropWhile
  cases hd : cs.dropWhile (· != '?') with
  | nil =>
    rw [hd, List.append_nil] at hcut
    rw [pathAndQuery, hcut, if_neg (Nat.lt_irrefl _)]
    rfl
  | cons d ds =>
    have hlen := congrArg List.length hcut
    rw [hd, List.length_append, List.length_cons] at hlen
    have hlt : (cs.takeWhile (· != '?')).length < cs.length := by omega
    have hmark : d = '?' := by
      have := List.head?_dropWhile_not (· != '?') cs
      simpa [hd] using this
    have htail : cs.drop ((cs.takeWhile (· != '?')).length + 1) = ds := by
      rw [← List.drop_drop, drop_length_takeWhile, hd]
      rfl
    rw [pathAndQuery, if_pos hlt, htail, hmark]
    simp

/-- The path is what stands before it, or `/` if that is nothing. -/
theorem pathAndQuery_path (hh : ∀ c, cs.head? = some c → endsAuthority c = true) :
    (pathAndQuery cs).1 =
      (if cs.head? = some '/' then "" else "/") ++ String.ofList (cs.takeWhile (· != '?')) := by
  cases cs with
  | nil => rfl
  | cons c ds =>
    have hc := hh c rfl
    simp only [endsAuthority, Bool.or_eq_true, beq_iff_eq] at hc
    obtain rfl | rfl := hc <;> simp [pathAndQuery]

theorem parsePathAndQuery_ok (h : parsePathAndQuery cs = .ok (route, query)) :
    pathAndQuery cs = (route, query) ∧ (cs.takeWhile (· != '?')).all isPathChar = true ∧
      (cs.dropWhile (· != '?')).all isQueryChar = true := by
  unfold parsePathAndQuery at h
  split at h
  · rename_i hc
    rw [Bool.and_eq_true] at hc
    exact ⟨Except.ok.inj h, hc⟩
  · cases h

theorem Splits.parts (h : Splits cs route query) :
    route = (pathAndQuery cs).1 ∧ query = (pathAndQuery cs).2 := by
  rw [(parsePathAndQuery_ok h.parse).1]
  exact ⟨rfl, rfl⟩

/-- A path and a query are the text they were read from, after the path `/` if there is none. -/
theorem Splits.text (h : Splits cs route query) (s : Option String) (a : Option Authority) :
    (Uri.mk s a route query).pathAndQuery =
      if cs.head? = some '/' then String.ofList cs else "/" ++ String.ofList cs := by
  rw [Uri.pathAndQuery, h.parts.1, h.parts.2, pathAndQuery_query, pathAndQuery_path h.head, String.append_assoc,
    ← String.ofList_append, List.takeWhile_append_dropWhile]
  split
  · rw [String.empty_append]
  · rfl

/-- The path has a `/`, and nothing of the query. -/
theorem Splits.path (h : Splits cs route query) : '/' ∈ route.toList ∧ '?' ∉ route.toList := by
  have hnone : '?' ∉ cs.takeWhile (· != '?') := fun hm => by
    simpa using List.mem_takeWhile_imp hm
  rw [h.parts.1, pathAndQuery_path h.head]
  cases cs with
  | nil => simp
  | cons c ds =>
    have hc := h.head c rfl
    simp only [endsAuthority, Bool.or_eq_true, beq_iff_eq] at hc
    obtain rfl | rfl := hc
    · simpa using hnone
    · simp

/-- Without the query the path is the same. -/
theorem Splits.beforeQuery (h : Splits cs route query) :
    ∃ query', Splits (cs.takeWhile (· != '?')) route query' := by
  obtain ⟨-, hpath, -⟩ := parsePathAndQuery_ok h.parse
  have hdrop : (cs.takeWhile (· != '?')).dropWhile (· != '?') = [] :=
    List.dropWhile_eq_nil_iff.mpr fun c hc => by simpa using List.mem_takeWhile_imp hc
  refine ⟨none, ?_, fun c hc => ?_⟩
  · rw [h.parts.1, parsePathAndQuery, List.takeWhile_idem, hdrop, hpath, pathAndQuery,
      pathAndQuery, List.takeWhile_idem, if_neg (Nat.lt_irrefl _)]
    rfl
  · refine h.head c ?_
    cases cs with
    | nil => exact hc
    | cons d ds =>
      rw [List.takeWhile_cons] at hc
      split at hc
      · exact hc
      · cases hc

/-- A path and a query split as they were read. -/
theorem Splits.normal (h : Splits cs route query) (s : Option String) (a : Option Authority) :
    Splits (Uri.mk s a route query).pathAndQuery.toList route query := by
  rw [h.text]
  cases cs with
  | nil =>
    obtain ⟨rfl, rfl⟩ := h.parts
    exact ⟨rfl, by simp [endsAuthority]⟩
  | cons c ds =>
    have hc := h.head c rfl
    simp only [endsAuthority, Bool.or_eq_true, beq_iff_eq] at hc
    obtain rfl | rfl := hc
    · rwa [if_pos (by rfl), String.toList_ofList]
    · -- No path: the text gets the path `/`, and the query stays.
      obtain ⟨-, -, hquery⟩ := parsePathAndQuery_ok h.parse
      have hcs : ("/" ++ String.ofList ('?' :: ds)).toList = '/' :: '?' :: ds := by simp
      rw [if_neg (by simp), hcs]
      refine ⟨?_, by simp [endsAuthority]⟩
      obtain ⟨rfl, rfl⟩ := h.parts
      have hslash : isPathChar '/' = true := by decide
      simp only [List.dropWhile_cons, bne_self_eq_false, Bool.false_eq_true, if_false] at hquery
      simp [parsePathAndQuery, pathAndQuery, hslash, hquery]

/-- What the parse makes of the text before the fragment. -/
inductive Parses (cs : List Char) (uri : Uri) : Prop
  | absolute (scheme authority tail : List Char) {a : Authority} {route : String}
      {query : Option String} (htext : cs = scheme ++ ':' :: '/' :: '/' :: (authority ++ tail))
      (hs : ∀ c ∈ scheme, isSchemeChar c = true) (ha : ∀ c ∈ authority, endsAuthority c = false)
      (hauthority : parseAuthority authority = .ok a) (ht : Splits tail route query)
      (huri : uri = ⟨some (schemeText scheme), some a, route, query⟩)
  | path {route : String} {query : Option String} (hh : cs.head? = some '/')
      (ht : Splits cs route query) (huri : uri = ⟨none, none, route, query⟩)

variable {text : String} {uri : Uri}

/-- **What parsing a URI does.** -/
theorem parseUri_iff :
    parseUri text = .ok uri ↔ Parses (text.toList.takeWhile (· != '#')) uri := by
  constructor
  · intro h
    unfold parseUri at h
    dsimp only at h
    split at h
    · rename_i scheme rest hsplit
      obtain ⟨htext, hscheme⟩ := splitScheme_eq hsplit
      obtain ⟨a, ha, h⟩ := bind_eq_ok.mp h
      obtain ⟨⟨route, query⟩, hp, h⟩ := bind_eq_ok.mp h
      have hcut : rest.takeWhile (!endsAuthority ·) ++ rest.dropWhile (!endsAuthority ·) = rest :=
        List.takeWhile_append_dropWhile
      refine .absolute _ _ _ (hcut.symm ▸ htext) hscheme (fun c hc => ?_) ha ⟨hp, fun c hc => ?_⟩
        (Except.ok.inj h).symm
      · simpa using List.mem_takeWhile_imp hc
      · have := List.head?_dropWhile_not (!endsAuthority ·) rest
        rw [hc] at this
        simpa using this
    · split at h
      · rename_i hh
        obtain ⟨⟨route, query⟩, hp, h⟩ := bind_eq_ok.mp h
        refine .path hh ⟨hp, fun c hc => ?_⟩ (Except.ok.inj h).symm
        obtain rfl := Option.some.inj (hh.symm.trans hc)
        rfl
      · cases h
  · intro h
    unfold parseUri
    dsimp only
    cases h with
    | absolute scheme authority tail htext hs ha hauthority ht huri =>
      have htake : (authority ++ tail).takeWhile (!endsAuthority ·) = authority :=
        Text.takeWhile_append_of_head (fun c hc => by simp [ha c hc])
          fun c hc => by simp [ht.head c hc]
      have hdrop : (authority ++ tail).dropWhile (!endsAuthority ·) = tail :=
        Text.dropWhile_append_of_head (fun c hc => by simp [ha c hc])
          fun c hc => by simp [ht.head c hc]
      rw [htext, splitScheme_append hs]
      dsimp only
      rw [htake, hdrop, hauthority, ht.parse, huri]
      rfl
    | path hh ht huri =>
      rw [splitScheme_slash hh]
      dsimp only
      rw [if_pos hh, ht.parse, huri]
      rfl

theorem Parses.path_chars {cs : List Char} (h : Parses cs uri) :
    '/' ∈ uri.path.toList ∧ '?' ∉ uri.path.toList := by
  cases h with
  | absolute _ _ _ _ _ _ _ ht huri => exact huri ▸ ht.path
  | path _ ht huri => exact huri ▸ ht.path

/-- Without its query a text parses to a URI of the same path. -/
theorem Parses.beforeQuery {cs : List Char} (h : Parses cs uri) :
    ∃ uri', Parses (cs.takeWhile (· != '?')) uri' ∧ uri'.path = uri.path := by
  cases h with
  | @absolute scheme authority tail a route query htext hs ha hauthority ht huri =>
    obtain ⟨query', ht'⟩ := ht.beforeQuery
    refine ⟨⟨some (schemeText scheme), some a, route, query'⟩, ?_, by rw [huri]⟩
    refine .absolute scheme authority _ ?_ hs ha hauthority ht' rfl
    have hscheme : ∀ c ∈ scheme, (c != '?') = true := fun c hc => by
      rw [bne_iff_ne]
      rintro rfl
      exact absurd (hs _ hc) (by decide)
    have hauth : ∀ c ∈ authority, (c != '?') = true := fun c hc => by
      rw [bne_iff_ne]
      rintro rfl
      exact absurd (ha _ hc) (by decide)
    rw [htext, List.takeWhile_append_of_pos hscheme, List.takeWhile_cons_of_pos (by decide),
      List.takeWhile_cons_of_pos (by decide), List.takeWhile_cons_of_pos (by decide),
      List.takeWhile_append_of_pos hauth]
  | @path route query hh ht huri =>
    obtain ⟨query', ht'⟩ := ht.beforeQuery
    refine ⟨⟨none, none, route, query'⟩, .path ?_ ht' rfl, by rw [huri]⟩
    cases cs with
    | nil => cases hh
    | cons c ds =>
      obtain rfl := Option.some.inj hh
      rfl

/-- A character of the text of a parsed URI is of the text that was parsed, or one that every URI
may have. -/
theorem Parses.mem_uriText {cs : List Char} {c : Char} (h : Parses cs uri)
    (hc : c ∈ (uriText uri).toList) : isSchemeChar c = true ∨ c = ':' ∨ c = '/' ∨ c ∈ cs := by
  cases h with
  | absolute scheme authority tail htext hs ha hauthority ht huri =>
    have hm : c ∈ (schemeText scheme).toList ∨ c ∈ "://".toList ∨ c ∈ authority ∨
        c ∈ '/' :: tail := by
      rw [uriText, huri, ht.text] at hc
      simp only [originText, Option.map_some, Option.getD_some, parseAuthority_text hauthority,
        String.toList_append, String.toList_ofList, List.mem_append, or_assoc] at hc
      refine hc.imp_right fun hc => hc.imp_right fun hc => hc.imp_right fun hc => ?_
      split at hc <;> simp_all
    rw [htext]
    obtain hm | hm | hm | hm := hm
    · exact .inl ((schemeText_keeps hs).1 c hm)
    · simp at hm
      tauto
    · simp [hm]
    · simp only [List.mem_cons] at hm
      obtain rfl | hm := hm <;> simp_all
  | path hh ht huri =>
    rw [uriText, huri, ht.text, if_pos hh] at hc
    simp [originText] at hc
    simp [hc]

/-- Nothing before the path begins a query. -/
theorem Parses.origin {cs : List Char} (h : Parses cs uri) : '?' ∉ (originText uri).toList := by
  cases h with
  | absolute scheme authority tail htext hs ha hauthority ht huri =>
    rw [huri]
    simp only [originText, Option.map_some, Option.getD_some, parseAuthority_text hauthority,
      String.toList_append, String.toList_ofList, List.mem_append]
    rintro ((hm | hm) | hm)
    · exact absurd ((schemeText_keeps hs).1 _ hm) (by decide)
    · exact absurd hm (by decide)
    · exact absurd (ha _ hm) (by decide)
  | path hh ht huri =>
    rw [huri]
    exact List.not_mem_nil

/-- **A URI that was parsed is printed as a text that parses to it.** -/
theorem uriText_parses {cs : List Char} (h : Parses cs uri) : Parses (uriText uri).toList uri := by
  cases h with
  | absolute scheme authority tail htext hs ha hauthority ht huri =>
    obtain ⟨hs', hkeep⟩ := schemeText_keeps hs
    refine .absolute (schemeText scheme).toList authority _ ?_ hs' ha hauthority
      (ht.normal uri.scheme uri.authority) (by rw [hkeep, huri])
    rw [huri, uriText]
    simp [originText, parseAuthority_text hauthority]
  | path hh ht huri =>
    have htext : (uriText uri).toList = cs := by
      rw [uriText, huri, ht.text, if_pos hh]
      simp [originText]
    exact htext ▸ .path hh ht huri

end Uris

end Ipp.Reference
