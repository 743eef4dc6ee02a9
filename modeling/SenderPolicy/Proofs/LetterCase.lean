import SenderPolicy.Proofs.Confinement

/-!
# Letter case

Nothing that is done to a name on its way into a query tells a capital letter from a small one: blanks, dots, delimiters
and at signs are no letters, a capital has as many bytes as its small letter, and both are unreserved. So small letters
may be made first, or last (`domainOfExpansion_lower`), and two transactions that differ in letter case fill in every
target alike (`Engine.expand_domain_eq`).
-/

namespace SenderPolicy

variable {α : Type} {s t : Text} {p : Char → Bool}

namespace Text

/-! ## Characters -/

def capitals : List Char :=
  "ABCDEFGHIJKLMNOPQRSTUVWXYZ".toList

/-- Only a capital is not its own small letter. -/
lemma mem_capitals_of_toLower_ne {c : Char} (h : c.toLower ≠ c) : c ∈ capitals := by
  by_cases hbounds : 'A'.val ≤ c.val ∧ c.val ≤ 'Z'.val
  · obtain ⟨hlow, hhigh⟩ := hbounds
    have hall : ∀ n, n < 91 → 65 ≤ n → Char.ofNat n ∈ capitals := by decide
    rw [← Char.ofNat_toNat c]
    exact hall c.toNat (Nat.lt_succ_of_le hhigh) hlow
  · have hself : c.toLower = c := dif_neg hbounds
    exact absurd hself h

/-- What is the same for capitals and their small letters does not see letter case. -/
lemma eq_of_capitals {f : Char → α} (h : capitals.map (fun c => f c.toLower) = capitals.map f) (c : Char) :
    f c.toLower = f c := by
  by_cases hc : c.toLower = c
  · rw [hc]
  · exact List.map_inj_left.mp h c (mem_capitals_of_toLower_ne hc)

/-- The class has a capital exactly if it has its small letter. -/
def CaseBlind (p : Char → Bool) : Prop :=
  ∀ c, p c.toLower = p c

/-- A class that is blind to the case of twenty-six letters is blind to that of all. -/
lemma CaseBlind.of_capitals (h : capitals.map (fun c => p c.toLower) = capitals.map p) : CaseBlind p :=
  eq_of_capitals h

/-- Such a class is the same of small letters. -/
lemma CaseBlind.comp_toLower (hp : CaseBlind p) : p ∘ Char.toLower = p :=
  funext hp

/-- What is not in such a class is a class of that kind. -/
lemma CaseBlind.not (hp : CaseBlind p) : CaseBlind (fun c => !p c) :=
  fun c => congrArg (!·) (hp c)

/-- Blanks are no letters. -/
lemma caseBlind_isBlank : CaseBlind isBlank :=
  .of_capitals (by decide)

/-- Neither are the characters that are forbidden in a name. -/
lemma caseBlind_isForbidden : CaseBlind DomainName.isForbidden :=
  .of_capitals (by decide)

/-- A dot is no letter. -/
lemma caseBlind_dot : CaseBlind (· == '.') :=
  .of_capitals (by decide)

/-- An at sign is no letter. -/
lemma caseBlind_at : CaseBlind (· == '@') :=
  .of_capitals (by decide)

/-! ## Small letters -/

/-- Small letters stay as they are. -/
lemma lower_lower (t : Text) : lower (lower t) = lower t := by
  have htwice : Char.toLower ∘ Char.toLower = Char.toLower := funext (eq_of_capitals (by decide))
  rw [lower, lower, List.map_map, htwice]

/-- Texts in a row are made small one by one. -/
lemma lower_append (s t : Text) : lower (s ++ t) = lower s ++ lower t :=
  List.map_append

/-- A text may be reversed before or after it is made small. -/
lemma lower_reverse (t : Text) : lower t.reverse = (lower t).reverse :=
  List.map_reverse

/-- A text has as many characters in small letters. -/
lemma length_lower (t : Text) : (lower t).length = t.length :=
  List.length_map _

/-- Texts that are the same in small letters have as many characters. -/
lemma length_eq_of_lower_eq (h : lower s = lower t) : s.length = t.length := by
  rw [← length_lower s, h, length_lower]

/-- Only the empty text is empty in small letters. -/
lemma isEmpty_lower (t : Text) : (lower t).isEmpty = t.isEmpty := by
  cases t with
  | nil => rfl
  | cons c t => rfl

/-- A text has as many bytes in small letters. -/
lemma byteLength_lower (t : Text) : byteLength (lower t) = byteLength t := by
  induction t with
  | nil => rfl
  | cons c t ih =>
    have hsize : c.toLower.utf8Size = c.utf8Size := eq_of_capitals (f := Char.utf8Size) (by decide) c
    show c.toLower.utf8Size + byteLength (lower t) = c.utf8Size + byteLength t
    rw [hsize, ih]

/-- Texts have the same letters if they are the same in small ones. -/
lemma sameLetters_iff : sameLetters s t = true ↔ lower s = lower t :=
  beq_iff_eq

/-- Letters of the other case have as many bytes. -/
lemma byteLength_eq_of_sameLetters (h : sameLetters s t = true) : byteLength s = byteLength t := by
  rw [← byteLength_lower s, sameLetters_iff.mp h, byteLength_lower]

/-- What a text starts with is cut off alike in small letters. -/
lemma lower_takeWhile (hp : CaseBlind p) (t : Text) : lower (t.takeWhile p) = (lower t).takeWhile p := by
  rw [lower, lower, List.takeWhile_map, hp.comp_toLower]

/-- What follows such a start is left alike in small letters. -/
lemma lower_dropWhile (hp : CaseBlind p) (t : Text) : lower (t.dropWhile p) = (lower t).dropWhile p := by
  rw [lower, lower, List.dropWhile_map, hp.comp_toLower]

/-- What stands at the end is dropped alike in small letters. -/
lemma lower_dropEnd (hp : CaseBlind p) (t : Text) : lower (dropEnd p t) = dropEnd p (lower t) := by
  rw [dropEnd, dropEnd, lower_reverse, lower_dropWhile hp, lower_reverse]

/-- Blanks are trimmed alike in small letters. -/
lemma lower_trim (t : Text) : lower (trim t) = trim (lower t) := by
  rw [trim, trim, lower_dropEnd caseBlind_isBlank, lower_dropWhile caseBlind_isBlank]

/-- Dots at the end are dropped alike in small letters. -/
lemma lower_dropDots (t : Text) : lower (dropDots t) = dropDots (lower t) :=
  lower_dropEnd caseBlind_dot t

/-- One dot at the end is dropped alike in small letters. -/
lemma lower_dropDot (t : Text) : lower (dropDot t) = dropDot (lower t) := by
  have hlast : (lower t).getLast? = some '.' ↔ t.getLast? = some '.' := by
    rw [lower, List.getLast?_map]
    cases t.getLast? with
    | none => rw [Option.map_none]
    | some c =>
      have hdot : (c.toLower == '.') = (c == '.') := caseBlind_dot c
      rw [Option.map_some, Option.some.injEq, Option.some.injEq, ← beq_iff_eq, hdot, beq_iff_eq]
  rw [dropDot, dropDot]
  by_cases h : t.getLast? = some '.'
  · rw [if_pos h, if_pos (hlast.mpr h)]
    exact List.map_dropLast
  · rw [if_neg h, if_neg (hlast.not.mpr h)]

/-- A text in small letters is cut where the text itself is cut. -/
lemma cutLast_lower {c : Char} (hc : CaseBlind (· == c)) (t : Text) :
    cutLast c (lower t) = (cutLast c t).map (Prod.map lower lower) := by
  rw [cutLast, cutLast, cutFirst, cutFirst, cut, cut, ← lower_reverse, ← lower_takeWhile hc.not,
    ← lower_dropWhile hc.not]
  dsimp only
  cases (t.reverse).dropWhile (fun x => !(x == c)) with
  | nil => rfl
  | cons d rest =>
    simp only [lower, List.map_cons, Option.map_some, Prod.map, List.map_reverse]

/-- A text in small letters has the pieces of the text, in small letters. -/
lemma pieces_lower (hp : CaseBlind p) (t : Text) : pieces p (lower t) = (pieces p t).map lower :=
  pieces_map fun c _ => hp c

/-- Joined pieces are made small one by one, and the separators too. -/
lemma lower_join (separator : Text) (ts : List Text) :
    lower (join separator ts) = join (lower separator) (ts.map lower) := by
  induction ts with
  | nil => rfl
  | cons t ts ih =>
    cases ts with
    | nil => simp [join, List.intercalate_singleton]
    | cons u ts =>
      rw [join] at ih ⊢
      rw [List.intercalate_cons_cons, lower_append, lower_append, ih]
      simp only [join, List.map_cons, List.intercalate_cons_cons]

/-- What is not written in hexadecimal digits is the same letter in either case; the digits are capitals anyway. -/
lemma lower_percentEncode_lower (t : Text) : lower (percentEncode (lower t)) = lower (percentEncode t) := by
  have hchar : ∀ c : Char, lower (percentEncode [c.toLower]) = lower (percentEncode [c]) :=
    eq_of_capitals (f := fun c => lower (percentEncode [c])) (by decide)
  induction t with
  | nil => rfl
  | cons c t ih =>
    have hcons : ∀ (d : Char) (u : Text),
        lower (percentEncode (d :: u)) = lower (percentEncode [d]) ++ lower (percentEncode u) := by
      intro d u
      rw [← lower_append, percentEncode, percentEncode, percentEncode, ← List.flatMap_append, List.singleton_append]
    show lower (percentEncode (c.toLower :: lower t)) = _
    rw [hcons c.toLower, hcons c, hchar, ih]

end Text

/-! ## Mailboxes and names -/

/-- A sender in small letters has the same mailbox, in small letters. -/
lemma Mailbox.ofSender_lower (t : Text) :
    ofSender (Text.lower t) = ⟨Text.lower (ofSender t).localPart, Text.lower (ofSender t).domain⟩ := by
  rw [ofSender, ofSender, ← Text.lower_trim, Text.cutLast_lower Text.caseBlind_at]
  rcases Text.cutLast '@' (Text.trim t) with _ | ⟨_ | ⟨c, localPart⟩, domain⟩
  · rfl
  · rfl
  · rfl

namespace DomainName

/-- A label is at fault in small letters exactly if it is so in others. -/
lemma labelFault?_lower_isNone (label : Text) :
    (labelFault? (Text.lower label)).isNone = (labelFault? label).isNone := by
  have hforbidden : (Text.lower label).any isForbidden = label.any isForbidden := by
    rw [Text.lower, List.any_map, Text.caseBlind_isForbidden.comp_toLower]
  rw [labelFault?, labelFault?, Text.isEmpty_lower, Text.byteLength_lower, hforbidden]
  split
  · rfl
  · split
    · rfl
    · split
      · rfl
      · rfl

/-- Some label is at fault in small letters exactly if one is so in others. -/
lemma findSome?_lower_isNone (ls : List Text) :
    ((ls.map Text.lower).findSome? labelFault?).isNone = (ls.findSome? labelFault?).isNone := by
  rw [Bool.eq_iff_iff, Option.isNone_iff_eq_none, Option.isNone_iff_eq_none, List.findSome?_eq_none_iff,
    List.findSome?_eq_none_iff, List.forall_mem_map]
  refine forall₂_congr fun label _ => ?_
  rw [← Option.isNone_iff_eq_none, labelFault?_lower_isNone, Option.isNone_iff_eq_none]

/-- Whether a name is fully qualified does not depend on letter case. -/
lemma isValid_lower (name : Text) : isValid (Text.lower name) = isValid name := by
  have hdot : (Text.lower (Text.dropDot name)).contains '.' = (Text.dropDot name).contains '.' := by
    rw [List.contains_eq_any_beq, List.contains_eq_any_beq, Text.lower, List.any_map]
    exact congrArg (List.any _) (funext fun c => by simpa [eq_comm] using Text.caseBlind_dot c)
  simp only [isValid, fault?, labels, ← Text.lower_dropDot, Text.isEmpty_lower, Text.byteLength_lower, hdot,
    Text.pieces_lower Text.caseBlind_dot]
  split
  · rfl
  · split
    · rfl
    · split
      · rfl
      · exact findSome?_lower_isNone _

/-- A name that is too long loses its first label, if it has more than one. -/
lemma truncate_of_lt (hlong : maxLength < Text.byteLength t) :
    truncate t = match t.dropWhile (· != '.') with
      | [] => t
      | _ :: rest => truncate rest := by
  rw [truncate, if_neg (Nat.not_le.mpr hlong)]
  split
  · next hcut => rw [hcut]
  · next hcut => rw [hcut]

/-- A name loses as many labels in small letters. By induction on its length. -/
lemma truncate_lower (name : Text) : truncate (Text.lower name) = Text.lower (truncate name) := by
  induction hn : name.length using Nat.strong_induction_on generalizing name with
  | _ n ih =>
    by_cases hlong : maxLength < Text.byteLength name
    · have hlong' : maxLength < Text.byteLength (Text.lower name) := by rwa [Text.byteLength_lower]
      have hdots : Text.CaseBlind (· != '.') := Text.caseBlind_dot.not
      rw [truncate_of_lt hlong, truncate_of_lt hlong', ← Text.lower_dropWhile hdots]
      cases hcut : name.dropWhile (· != '.') with
      | nil => rfl
      | cons c rest =>
        have hshorter : (c :: rest).length ≤ name.length := hcut ▸ (List.dropWhile_sublist _).length_le
        refine ih rest.length ?_ rest rfl
        rw [List.length_cons] at hshorter
        omega
    · have hfits := Nat.not_lt.mp hlong
      rw [truncate_of_le hfits, truncate_of_le (by rwa [Text.byteLength_lower])]

/-- Whether a name is another or lies below it does not depend on the letter case of that. -/
lemma isSameOrBelow_eq {parent parent' : Text} (h : Text.lower parent = Text.lower parent') (name : Text) :
    isSameOrBelow name parent = isSameOrBelow name parent' := by
  have hdots : Text.lower (Text.dropDots parent) = Text.lower (Text.dropDots parent') := by
    rw [Text.lower_dropDots, Text.lower_dropDots, h]
  simp only [isSameOrBelow, Text.sameLetters, hdots, Text.length_eq_of_lower_eq hdots]

end DomainName

/-! ## Templates -/

/-- Delimiters are no letters. -/
lemma Transformer.caseBlind_isDelimiter {f : Transformer}
    (hf : f.delimiters.all (Expression.delimiters.contains ·) = true) : Text.CaseBlind f.isDelimiter := by
  intro c
  by_cases hc : c.toLower = c
  · rw [hc]
  · -- neither a capital nor its small letter is among them
    have hcapital := Text.mem_capitals_of_toLower_ne hc
    have hnone : (Text.capitals.all fun c =>
        !Expression.delimiters.contains c && !Expression.delimiters.contains c.toLower) = true := by decide
    obtain ⟨hc, hlower⟩ : c ∉ Expression.delimiters ∧ c.toLower ∉ Expression.delimiters := by
      simpa using List.all_eq_true.mp hnone c hcapital
    have hdot : (c.toLower == '.') = (c == '.') := Text.caseBlind_dot c
    have hmem : ∀ d ∈ f.delimiters, d ∈ Expression.delimiters := by simpa using hf
    have hcontains : ∀ d, d ∉ Expression.delimiters → f.delimiters.contains d = false := by
      intro d hd
      simpa using fun h => hd (hmem d h)
    rw [isDelimiter, isDelimiter, hdot, hcontains c hc, hcontains c.toLower hlower]

/-- Labels are cut, kept and reversed in small letters as they are in others. -/
lemma Transformer.apply_lower {f : Transformer} (hf : f.delimiters.all (Expression.delimiters.contains ·) = true)
    (value : Text) : f.apply (Text.lower value) = Text.lower (f.apply value) := by
  have hkept : ∀ labels : List Text, f.kept (labels.map Text.lower) = (f.kept labels).map Text.lower := by
    intro labels
    rw [kept, kept]
    cases f.keep with
    | none => rfl
    | some k =>
      dsimp only
      rw [List.length_map, List.map_drop]
  have hdot : Text.lower ['.'] = ['.'] := rfl
  rw [apply, apply, Text.lower_join, hdot, ← hkept, Text.pieces_lower (caseBlind_isDelimiter hf)]
  cases f.reverse with
  | true => simp only [if_true, List.map_reverse]
  | false => rfl

namespace Expression

/-- What is read behind a letter has delimiters only of those that may be used. -/
lemma delimiters_of_transformer? {t : Text} {f : Transformer} (h : transformer? t = some f) :
    f.delimiters.all (delimiters.contains ·) = true := by
  rw [transformer?] at h
  obtain ⟨keep, -, h⟩ := Option.bind_eq_some_iff.mp h
  split at h
  next reverse rest _ =>
    obtain ⟨hall, hf⟩ := Option.ite_none_right_eq_some.mp h
    obtain rfl := Option.some.inj hf
    exact hall

/-- What is read as an expression has delimiters only of those that may be used. -/
lemma delimiters_of_parse {scope : Scope} {body : Text} {e : Expression} (h : parse scope body = .ok e) :
    e.transformer.delimiters.all (delimiters.contains ·) = true := by
  rw [parse.eq_def] at h
  split at h
  · cases h
  · split at h
    · cases h
    · split at h
      · cases h
      · split at h
        · cases h
        · next f hf =>
          obtain rfl := Except.ok.inj h
          exact delimiters_of_transformer? hf

end Expression

namespace Template

variable {scope : Scope}

/-- Every expression that is read cuts its value at delimiters only. -/
def CutsAtDelimiters (read : Except Error Template) : Prop :=
  ∀ p, read = .ok p → ∀ e, .expand e ∈ p → e.transformer.delimiters.all (Expression.delimiters.contains ·) = true

/-- What is read as a template cuts values at delimiters only. -/
theorem cutsAtDelimiters_parse (t : Text) : CutsAtDelimiters (parse scope t) :=
  eachExpression_parse (fun _ _ h => Expression.delimiters_of_parse h) t

end Template

/-- The transactions have the same data but for letter case. -/
def Transaction.Alike (x y : Transaction) : Prop :=
  ∀ letter, Text.lower (x.value letter) = Text.lower (y.value letter)

section

variable {x y : Transaction} (hxy : x.Alike y)

include hxy

/-- An expression has the same expansion but for letter case where transactions are alike. -/
lemma Expression.lower_expand {e : Expression} (he : e.transformer.delimiters.all (delimiters.contains ·) = true) :
    Text.lower (e.expand x) = Text.lower (e.expand y) := by
  have hvalue : Text.lower (e.transformer.apply (x.value e.letter)) =
      Text.lower (e.transformer.apply (y.value e.letter)) := by
    rw [← Transformer.apply_lower he, ← Transformer.apply_lower he, hxy]
  rw [expand, expand]
  cases e.encoded with
  | false => exact hvalue
  | true =>
    simp only [if_true]
    rw [← Text.lower_percentEncode_lower, hvalue, Text.lower_percentEncode_lower]

/-- A template has the same text but for letter case where transactions are alike. -/
lemma Template.lower_render {p : Template}
    (hp : ∀ e, .expand e ∈ p → e.transformer.delimiters.all (Expression.delimiters.contains ·) = true) :
    Text.lower (render x p) = Text.lower (render y p) := by
  induction p with
  | nil => rfl
  | cons piece p ih =>
    have hrest := ih fun e he => hp e (List.mem_cons_of_mem _ he)
    have hpiece : Text.lower (expandPiece x piece) = Text.lower (expandPiece y piece) := by
      cases piece with
      | copy c => rfl
      | expand e => exact Expression.lower_expand hxy (hp e List.mem_cons_self)
    rw [render, render] at hrest ⊢
    rw [List.flatMap_cons, List.flatMap_cons, Text.lower_append, Text.lower_append, hpiece, hrest]

end

namespace Engine

/-- A domain that a text leads to is in small letters anyway. -/
lemma domainOfExpansion_lower (t : Text) : domainOfExpansion (Text.lower t) = domainOfExpansion t := by
  rw [domainOfExpansion, domainOfExpansion, ← Text.lower_dropDots, DomainName.truncate_lower, Text.lower_lower]

/-- Transactions that differ in letter case only lead to the same domain. -/
theorem expand_domain_eq {scope : Scope} {x y : Transaction} (hxy : x.Alike y) (t : Text) :
    (Template.expand scope x t).map domainOfExpansion = (Template.expand scope y t).map domainOfExpansion := by
  rw [Template.expand, Template.expand]
  cases hread : Template.parse scope t with
  | error e => rfl
  | ok p =>
    have hrender := Template.lower_render hxy (Template.cutsAtDelimiters_parse t p hread)
    refine congrArg Except.ok ?_
    rw [← domainOfExpansion_lower, hrender, domainOfExpansion_lower]

/-- The name that stands for the client is chosen whatever the letter case of the domain is. -/
lemma preferred_eq {domain domain' : Text} (h : Text.lower domain = Text.lower domain') (names : List Text) :
    preferred domain names = preferred domain' names := by
  have hbelow : (DomainName.isSameOrBelow · domain) = (DomainName.isSameOrBelow · domain') :=
    funext (DomainName.isSameOrBelow_eq h)
  rw [preferred, preferred, hbelow]
  simp only [Text.sameLetters, h]

end Engine

end SenderPolicy
