import SenderPolicy.Proofs.LetterCase

/-!
# Names at and below a domain

Neither letter case nor dots at the end tell two names apart. But for these, a name is another one (`IsSame`), or lies
below it, with more in front of it and a dot between (`IsBelow`). The comparison of the library tells exactly that
(`isSameOrBelow_iff`), and no name is below itself.
-/

namespace SenderPolicy.DomainName

variable {name parent : Text}

/-- The name in small letters, without dots at its end. -/
def bare (name : Text) : Text :=
  Text.lower (Text.dropDots name)

/-- The name is the parent but for letter case and dots at the end. -/
def IsSame (parent name : Text) : Prop :=
  bare name = bare parent

instance : Decidable (IsSame parent name) :=
  inferInstanceAs (Decidable (bare name = bare parent))

/-- The name has more in front of the parent, and a dot between, but for letter case and dots at the end. -/
def IsBelow (parent name : Text) : Prop :=
  ∃ front, front ≠ [] ∧ bare name = front ++ '.' :: bare parent

/-- A name below another one is longer, so it is not the same. -/
lemma IsBelow.not_isSame (h : IsBelow parent name) : ¬IsSame parent name := by
  obtain ⟨front, -, hname⟩ := h
  intro hsame
  have hlength := congrArg List.length (hname.symm.trans hsame)
  rw [List.length_append, List.length_cons] at hlength
  omega

/-- Names that differ in letter case only are the same. -/
lemma isSame_of_sameLetters (h : Text.sameLetters name parent = true) : IsSame parent name := by
  rw [IsSame, bare, bare, Text.lower_dropDots, Text.lower_dropDots, beq_iff_eq.mp h]

/-- No letter has a dot for its small letter. -/
lemma eq_dot_of_toLower {c : Char} (h : c.toLower = '.') : c = '.' := by
  have hdot : (c.toLower == '.') = (c == '.') := Text.caseBlind_dot c
  rw [h] at hdot
  exact beq_iff_eq.mp hdot.symm

/-- The end of one text is another behind a dot, with something before the dot. -/
lemma endsBehindDot_iff {n p : Text} :
    (p.length + 1 < n.length ∧
        (match n.drop (n.length - p.length - 1) with
          | '.' :: tail => Text.sameLetters tail p
          | _ => false) = true) ↔
      ∃ front, front ≠ [] ∧ Text.lower n = front ++ '.' :: Text.lower p := by
  constructor
  · rintro ⟨hlength, hmatch⟩
    split at hmatch
    · next tail htail =>
      refine ⟨Text.lower (n.take (n.length - p.length - 1)), fun hnil => ?_, ?_⟩
      · have htake := congrArg List.length hnil
        rw [Text.length_lower, List.length_take, List.length_nil] at htake
        omega
      · have hlower : Text.lower (n.drop (n.length - p.length - 1)) = '.' :: Text.lower tail := by
          rw [htail]
          rfl
        rw [← beq_iff_eq.mp hmatch, ← hlower, ← Text.lower_append, List.take_append_drop]
    · cases hmatch
  · rintro ⟨front, hne, hn⟩
    have hlength := congrArg List.length hn
    rw [Text.length_lower, List.length_append, List.length_cons, Text.length_lower] at hlength
    have hfront := List.length_pos_of_ne_nil hne
    -- small letters are as many as those they stand for, so the text is cut where the front ends
    have hcut : n.length - p.length - 1 = front.length := by omega
    have hdrop : Text.lower (n.drop front.length) = '.' :: Text.lower p := by
      rw [Text.lower, List.map_drop, ← Text.lower, hn, List.drop_left]
    refine ⟨by omega, ?_⟩
    rw [hcut]
    cases htail : n.drop front.length with
    | nil =>
      rw [htail] at hdrop
      cases hdrop
    | cons c tail =>
      rw [htail] at hdrop
      obtain ⟨hc, hlower⟩ := List.cons.inj hdrop
      obtain rfl := eq_dot_of_toLower hc
      exact beq_iff_eq.mpr hlower

/-- The comparison of two names tells whether the first is the second or lies below it. -/
theorem isSameOrBelow_iff : isSameOrBelow name parent = true ↔ IsSame parent name ∨ IsBelow parent name := by
  simp only [isSameOrBelow, Bool.or_eq_true, Bool.and_eq_true, decide_eq_true_iff]
  exact or_congr beq_iff_eq endsBehindDot_iff

end SenderPolicy.DomainName
