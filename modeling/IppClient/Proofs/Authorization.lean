import IppClient.CupsPk.Client

/-!
# Which failed calls read as a refused authorization

A D-Bus failure has an error name and a message, and displays as the one followed by the other. A
refusal by polkit is an access-denied name. `CupsPk::call_failed` looks for three texts anywhere in
what is displayed, the message and what it quotes included.

* `AccessDenied name`: the last component of the error name says that access was denied.
* `call_failed_iff`: **a failure is read for what it is exactly when its name is an access-denied
  one, or none of the three texts occurs in it.**
-/

namespace Cups

open Base

/-- The name of a D-Bus error that denies access, by its last component. -/
def AccessDenied (name : String) : Prop :=
  Text.afterLast name '.' = "NotPrivileged" ∨ Text.afterLast name '.' = "AccessDenied"

instance (name : String) : Decidable (AccessDenied name) := inferInstanceAs (Decidable (_ ∨ _))

/-- The text has one of the three texts that are looked for. -/
def MentionsRefusal (text : String) : Prop :=
  Text.contains text "NotPrivileged" = true ∨ Text.contains text "AccessDenied" = true ∨
    Text.contains text "not authorized" = true

instance (text : String) : Decidable (MentionsRefusal text) :=
  inferInstanceAs (Decidable (_ ∨ _ ∨ _))

/-- The failure of that name is read for what it is: a refused authorization exactly when the name
denies access, and a transport failure with the whole text otherwise. -/
structure WellRead (e : ZbusError) (name : String) : Prop where
  refused_iff : CupsPk.callFailed e = .authorizationFailed ↔ AccessDenied name
  otherwise : ¬AccessDenied name → CupsPk.callFailed e = .transport e.text

theorem callFailed_of_mentions {e : ZbusError} (h : MentionsRefusal e.text) :
    CupsPk.callFailed e = .authorizationFailed := by
  unfold CupsPk.callFailed
  rw [if_pos (by simpa only [MentionsRefusal, Bool.or_eq_true, or_assoc] using h)]

theorem callFailed_of_not_mentions {e : ZbusError} (h : ¬MentionsRefusal e.text) :
    CupsPk.callFailed e = .transport e.text := by
  unfold CupsPk.callFailed
  rw [if_neg (by simpa only [MentionsRefusal, Bool.or_eq_true, or_assoc] using h)]

/-- The last component of a name ends it. -/
theorem exists_eq_append_afterLast (name : String) (c : Char) :
    ∃ before, name = before ++ Text.afterLast name c := by
  refine ⟨.ofList (name.toList.rdropWhile (· != c)), ?_⟩
  rw [Text.afterLast, ← String.toList_inj, String.toList_append, String.toList_ofList,
    String.toList_ofList, List.rdropWhile_append_rtakeWhile]

/-- What denies access is found in the text that the name starts. -/
theorem mentions_of_accessDenied {name after : String} (h : AccessDenied name) :
    MentionsRefusal (name ++ after) := by
  obtain ⟨before, hb⟩ := exists_eq_append_afterLast name '.'
  rcases h with h | h
  · rw [h] at hb
    exact .inl (Text.contains_eq_true.mpr ⟨before, after, by rw [hb]⟩)
  · rw [h] at hb
    exact .inr (.inl (Text.contains_eq_true.mpr ⟨before, after, by rw [hb]⟩))

/-- **Which failures are read for what they are.** For a failure that displays as its name followed
by its message, with anything between the two. -/
theorem call_failed_iff {e : ZbusError} {name between message : String}
    (h : e.text = name ++ between ++ message) :
    WellRead e name ↔ AccessDenied name ∨ ¬MentionsRefusal e.text := by
  constructor
  · intro hread
    by_cases hd : AccessDenied name
    · exact .inl hd
    · refine .inr fun hm => hd (hread.refused_iff.mp (callFailed_of_mentions hm))
  · rintro (hd | hm)
    · have hm : MentionsRefusal e.text := by
        rw [h, String.append_assoc]
        exact mentions_of_accessDenied hd
      exact ⟨iff_of_true (callFailed_of_mentions hm) hd, fun hn => absurd hd hn⟩
    · have hd : ¬AccessDenied name := by
        intro hd
        rw [h, String.append_assoc] at hm
        exact hm (mentions_of_accessDenied hd)
      have hread := callFailed_of_not_mentions hm
      refine ⟨iff_of_false ?_ hd, fun _ => hread⟩
      rw [hread]
      exact CupsPkError.noConfusion

/-- A refusal by polkit, as the mechanism raises it. -/
def polkitRefusal : ZbusError :=
  ⟨"org.opensuse.CupsPkHelper.Mechanism.NotPrivileged" ++ ": " ++ "no prompt was answered"⟩

theorem call_failed_iff_polkitRefusal :
    WellRead polkitRefusal "org.opensuse.CupsPkHelper.Mechanism.NotPrivileged" ↔
      AccessDenied "org.opensuse.CupsPkHelper.Mechanism.NotPrivileged" ∨
        ¬MentionsRefusal polkitRefusal.text :=
  call_failed_iff rfl

/-- A failure that quotes the printer it is about, which is called `AccessDenied`. -/
def missingPrinter : ZbusError :=
  ⟨"org.freedesktop.DBus.Error.Failed" ++ ": " ++ "no printer named AccessDenied"⟩

/-- The missing printer reads as a refused authorization. -/
theorem missingPrinter_misread :
    ¬ ∀ (e : ZbusError) (name between message : String), e.text = name ++ between ++ message →
      WellRead e name := by
  intro h
  have hread := h missingPrinter "org.freedesktop.DBus.Error.Failed" ": "
    "no printer named AccessDenied" rfl
  have hm : MentionsRefusal missingPrinter.text :=
    .inr (.inl (Text.contains_eq_true.mpr
      ⟨"org.freedesktop.DBus.Error.Failed: no printer named ", "", rfl⟩))
  have hn : ¬AccessDenied "org.freedesktop.DBus.Error.Failed" := by decide
  exact hn (hread.refused_iff.mp (callFailed_of_mentions hm))

end Cups
