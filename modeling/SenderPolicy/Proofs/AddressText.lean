import Mathlib.Data.List.TakeWhile
import SenderPolicy.Address.Basic
import SenderPolicy.Proofs.Numerals
import SenderPolicy.Proofs.Words

/-!
# Printed addresses

Reading a printed address gives the address back, in either family. The printed IPv6 address has three forms: the
groups alone, the groups with a run of zeros left out, and an IPv4 address at the end. In each of them the cut at
two colons falls where the printer left the run out, because no printed group is empty.
-/

namespace SenderPolicy

/-! ## IPv4 -/

namespace V4

/-- An octet in decimal is read back. -/
lemma octet?_ofNat (o : BitVec 8) : octet? (Text.ofNat o.toNat) = some o := by
  rw [octet?.eq_def]
  split
  · next c t ht =>
    have hlength := Text.length_ofNat_le (n := o.toNat) (by rw [ht, List.head?_cons])
    rw [ht] at hlength
    simp at hlength
  · rw [Text.numeral?_ofNat, Option.filter_some, if_pos (by simpa using o.isLt), Option.map_some,
      BitVec.ofNat_toNat, BitVec.setWidth_eq]

/-- The four octets of a word make up the word. -/
lemma ofOctets_octets (v : BitVec 32) :
    ofOctets (v.extractLsb' 24 8) (v.extractLsb' 16 8) (v.extractLsb' 8 8) (v.extractLsb' 0 8) = ⟨v⟩ := by
  rw [ofOctets, BitVec.extractLsb'_append_extractLsb'_eq_extractLsb' (by rfl),
    BitVec.extractLsb'_append_extractLsb'_eq_extractLsb' (by rfl),
    BitVec.extractLsb'_append_extractLsb'_eq_extractLsb' (by rfl)]
  exact congrArg V4.mk BitVec.extractLsb'_eq_self

/-- A printed IPv4 address is read back. -/
lemma ofText?_text (a : V4) : ofText? a.text = some a := by
  have hdots : ∀ t ∈ a.octets.map fun o => Text.ofNat o.toNat, '.' ∉ t := by
    intro t ht hdot
    obtain ⟨o, -, rfl⟩ := List.mem_map.mp ht
    exact absurd (Text.isDigit_of_mem_ofNat hdot) (by decide)
  have hpieces := Text.pieces_join hdots (by simp [octets])
  rw [ofText?, text, hpieces, List.map_map]
  simp only [octets, List.map_cons, List.map_nil, Function.comp_apply, octet?_ofNat, ofOctets_octets]

/-- A text of one piece spells no address. -/
lemma ofText?_eq_none {t : Text} (ht : '.' ∉ t) : ofText? t = none := by
  have hpieces : Text.pieces (· == '.') t = [t] := by
    apply List.splitOnP_eq_singleton
    intro c hc
    rw [beq_eq_false_iff_ne]
    rintro rfl
    exact ht hc
  rw [ofText?, hpieces, List.map_cons, List.map_nil]
  cases octet? t <;> rfl

/-- A printed IPv4 address has digits and dots only. -/
lemma of_mem_text {a : V4} {c : Char} (hc : c ∈ a.text) : c.isAlphanum ∨ c = '.' := by
  rcases Text.mem_join hc with rfl | ⟨t, ht, hc⟩
  · exact .inr rfl
  · obtain ⟨o, -, rfl⟩ := List.mem_map.mp ht
    exact .inl (Text.isAlphanum_of_mem_toDigits (by decide) (by decide) hc)

end V4

/-! ## IPv6 -/

namespace V6

variable {gs : List (BitVec 16)} {c : Char} {t : Text}

/-! ### Groups as bits -/

/-- The leading bits and one more group are the leading bits up to the end of that group. -/
lemma shiftLeft_or_extract (v : BitVec 128) (i : Nat) :
    (v >>> (i + 16)) <<< 16 ||| (v.extractLsb' i 16).setWidth 128 = v >>> i := by
  apply BitVec.eq_of_getLsbD_eq
  intro j hj
  simp only [BitVec.getLsbD_or, BitVec.getLsbD_shiftLeft, BitVec.getLsbD_ushiftRight, BitVec.getLsbD_setWidth,
    BitVec.getLsbD_extractLsb']
  by_cases hlt : j < 16
  · simp [hj, hlt]
  · have hindex : i + 16 + (j - 16) = i + j := by omega
    simp [hj, hlt, hindex]

/-- The eight groups of an address make up the address. -/
lemma ofGroups_groups (a : V6) : ofGroups a.groups = a := by
  have hnone : (0 : BitVec 128) = a.bits >>> (112 + 16) := (BitVec.ushiftRight_eq_zero (by decide)).symm
  simp only [ofGroups, groups, List.map_cons, List.map_nil, List.foldl_cons, List.foldl_nil]
  rw [hnone, shiftLeft_or_extract a.bits 112, shiftLeft_or_extract a.bits 96, shiftLeft_or_extract a.bits 80,
    shiftLeft_or_extract a.bits 64, shiftLeft_or_extract a.bits 48, shiftLeft_or_extract a.bits 32,
    shiftLeft_or_extract a.bits 16, shiftLeft_or_extract a.bits 0]
  rfl

/-- The groups of an address that holds an IPv4 address. -/
lemma groups_of_mapped? {a : V6} {b : V4} (h : a.mapped? = some b) :
    a.groups = List.replicate 5 0 ++ [0xffff, b.bits.extractLsb' 16 16, b.bits.extractLsb' 0 16] := by
  rw [mapped?] at h
  split at h
  · next hblock =>
    obtain rfl := Option.some.inj h
    -- the six high groups are parts of the block that tells mapped addresses, the two low ones of what is mapped
    have hhigh : ∀ i, i + 16 ≤ 96 → a.bits.extractLsb' (32 + i) 16 = (0xffff#96).extractLsb' i 16 := by
      intro i hi
      rw [← hblock]
      apply BitVec.eq_of_getLsbD_eq
      intro j hj
      have hlt : i + j < 96 := by omega
      simp [hj, hlt, Nat.add_assoc]
    have hlow : ∀ i, i + 16 ≤ 32 → a.bits.extractLsb' i 16 = (a.bits.extractLsb' 0 32).extractLsb' i 16 := by
      intro i hi
      exact (BitVec.extractLsb'_extractLsb'_of_le hi).symm
    simp only [groups, List.map_cons, List.map_nil]
    rw [hhigh 80 (by decide), hhigh 64 (by decide), hhigh 48 (by decide), hhigh 32 (by decide),
      hhigh 16 (by decide), hhigh 0 (by decide), hlow 16 (by decide), hlow 0 (by decide)]
    rfl
  · cases h

/-! ### Groups as text -/

/-- A printed group has hexadecimal digits only, which are letters and digits. -/
lemma isAlphanum_of_mem_groupText {g : BitVec 16} (hc : c ∈ groupText g) : c.isAlphanum :=
  Text.isAlphanum_of_mem_toDigits (by decide) (by decide) hc

/-- A printed group is read back. -/
lemma group?_groupText (g : BitVec 16) : group? (groupText g) = some g := by
  have hpos : 1 ≤ (groupText g).length := List.length_pos_iff.mpr Nat.toDigits_ne_nil
  have hle : (groupText g).length ≤ 4 := (Nat.length_toDigits_le_iff (by decide) (by decide)).mpr g.isLt
  rw [group?, if_pos ⟨hpos, hle⟩, groupText, Text.hexNumber?_toDigits, Option.map_some, BitVec.ofNat_toNat,
    BitVec.setWidth_eq]

/-- A printed group is not empty and holds no colon. -/
lemma of_mem_map_groupText (ht : t ∈ gs.map groupText) : t ≠ [] ∧ ':' ∉ t := by
  obtain ⟨g, -, rfl⟩ := List.mem_map.mp ht
  refine ⟨Nat.toDigits_ne_nil, fun hcolon => ?_⟩
  exact absurd (isAlphanum_of_mem_groupText hcolon) (by decide)

/-- Printed groups have letters, digits and colons only. -/
lemma of_mem_groupsText (hc : c ∈ groupsText gs) : c.isAlphanum ∨ c = ':' := by
  rcases Text.mem_join hc with rfl | ⟨t, ht, hc⟩
  · exact .inr rfl
  · obtain ⟨g, -, rfl⟩ := List.mem_map.mp ht
    exact .inl (isAlphanum_of_mem_groupText hc)

/-- Groups that are printed one by one are read back. -/
lemma groupsOf?_map_groupText (gs : List (BitVec 16)) : groupsOf? (gs.map groupText) = some gs := by
  induction gs with
  | nil => rfl
  | cons g gs ih =>
    cases gs with
    | nil =>
      have hdot : '.' ∉ groupText g := fun hc => absurd (isAlphanum_of_mem_groupText hc) (by decide)
      rw [List.map_cons, List.map_nil, groupsOf?, V4.ofText?_eq_none hdot, group?_groupText]
      rfl
    | cons g' gs =>
      rw [List.map_cons] at ih
      rw [List.map_cons, List.map_cons, groupsOf?, group?_groupText, ih]
      · rfl
      · simp

/-- Printed groups are found again between the colons. -/
lemma pieces_groupsText (hne : gs ≠ []) : Text.pieces (· == ':') (groupsText gs) = gs.map groupText :=
  Text.pieces_join (fun _ ht => (of_mem_map_groupText ht).2) (by simpa using hne)

/-- Printed groups on one side of two colons are read back, also where there are none. -/
lemma sideGroups?_groupsText (gs : List (BitVec 16)) : sideGroups? (groupsText gs) = some gs := by
  cases gs with
  | nil => rfl
  | cons g gs =>
    have hpieces := pieces_groupsText (List.cons_ne_nil g gs)
    have hne : groupsText (g :: gs) ≠ [] := by
      intro hnil
      rw [hnil] at hpieces
      have hmem : [] ∈ (g :: gs).map groupText := hpieces ▸ List.mem_singleton_self []
      exact (of_mem_map_groupText hmem).1 rfl
    rw [sideGroups?, if_neg (by simpa using hne), hpieces, groupsOf?_map_groupText]

/-! ### The cut at two colons -/

/-- A text without colons is passed over in the search for two colons. -/
lemma cutGap_append {rest : Text} (ht : ':' ∉ t) :
    cutGap (t ++ rest) = (cutGap rest).map fun (before, after) => (t ++ before, after) := by
  induction t with
  | nil => simp
  | cons c t ih =>
    have hc : c ≠ ':' := fun h => ht (h ▸ List.mem_cons_self)
    have htail := ih fun h => ht (List.mem_cons_of_mem c h)
    rw [List.cons_append, cutGap, htail, Option.map_map]
    · rfl
    · rintro _ rfl
      exact absurd rfl hc

/-- A colon by itself is passed over in the search for two colons. -/
lemma cutGap_colon {rest : Text} (hc : c ≠ ':') :
    cutGap (':' :: c :: rest) = (cutGap (c :: rest)).map fun (before, after) => (':' :: before, after) := by
  rw [cutGap]
  rintro _ _ h
  exact hc (List.cons.inj h).1

/-- No two colons in a row stand in pieces that are not empty, joined by colons. -/
lemma cutGap_join {ts : List Text} {rest : Text} (hts : ∀ t ∈ ts, t ≠ [] ∧ ':' ∉ t) :
    cutGap (Text.join [':'] ts ++ rest) =
      (cutGap rest).map fun (before, after) => (Text.join [':'] ts ++ before, after) := by
  induction ts with
  | nil => simp [Text.join]
  | cons t ts ih =>
    obtain ⟨-, ht⟩ := hts t List.mem_cons_self
    have htail := ih fun u hu => hts u (List.mem_cons_of_mem t hu)
    cases ts with
    | nil => simpa [Text.join] using cutGap_append ht
    | cons u ts =>
      -- The character after the colon starts the next piece, so it is no colon.
      obtain ⟨hne, hu⟩ := hts u (List.mem_cons_of_mem t List.mem_cons_self)
      obtain ⟨c, v, rfl⟩ := List.exists_cons_of_ne_nil hne
      have hc : c ≠ ':' := fun h => hu (h ▸ List.mem_cons_self)
      obtain ⟨w, hw⟩ := Text.exists_join_eq_cons [':'] c v ts
      have hjoin : Text.join [':'] (t :: (c :: v) :: ts) = t ++ ':' :: c :: w := by
        rw [Text.join_cons_cons, hw, List.append_assoc, List.singleton_append]
      rw [hw, List.cons_append] at htail
      rw [hjoin, List.append_assoc, cutGap_append ht, List.cons_append, List.cons_append, cutGap_colon hc, htail,
        Option.map_map, Option.map_map]
      cases cutGap rest <;> simp

/-- Printed groups are passed over in the search for two colons. -/
lemma cutGap_groupsText (gs : List (BitVec 16)) (rest : Text) :
    cutGap (groupsText gs ++ rest) =
      (cutGap rest).map fun (before, after) => (groupsText gs ++ before, after) :=
  cutGap_join fun _ ht => of_mem_map_groupText ht

/-! ### The run that is left out -/

/-- The groups are those before the run, as many zeros as it is long, and those after it. -/
lemma eq_of_zeroRun {start length : Nat} (h : zeroRun gs = (start, length)) :
    gs = gs.take start ++ List.replicate length 0 ++ gs.drop (start + length) := by
  have hrun : (zeroRun gs).2 ≤ ((gs.drop (zeroRun gs).1).takeWhile (· == 0#16)).length := by
    -- the best run so far is a run of zeros from where it starts
    rw [zeroRun]
    refine List.foldlRecOn (motive := fun best : Nat × Nat =>
      best.2 ≤ ((gs.drop best.1).takeWhile (· == 0#16)).length) _ _ (Nat.zero_le _) ?_
    intro best hbest i _
    split
    · exact Nat.le_refl _
    · exact hbest
  rw [h] at hrun
  have hzeros : (gs.drop start).take length = List.replicate length 0 := by
    have hinit : (gs.drop start).take length <+: (gs.drop start).takeWhile (· == 0#16) := by
      refine List.prefix_of_prefix_length_le (List.take_prefix _ _) (List.takeWhile_prefix _) ?_
      exact Nat.le_trans (List.length_take_le _ _) hrun
    have hlength : length ≤ (gs.drop start).length := Nat.le_trans hrun (List.takeWhile_prefix _).length_le
    refine List.eq_replicate_iff.mpr ⟨List.length_take_of_le hlength, fun g hg => ?_⟩
    have hzero := List.mem_takeWhile_imp (hinit.subset hg)
    exact eq_of_beq hzero
  rw [← hzeros, List.append_assoc, ← List.drop_drop, List.take_append_drop, List.take_append_drop]

/-! ### The printed address -/

/-- The text of an IPv6 address with an IPv4 address at its end spells them. -/
lemma ofText?_mapped (b : V4) :
    ofText? ("::ffff:".toList ++ b.text) =
      some (ofGroups (List.replicate 5 0 ++ [0xffff, b.bits.extractLsb' 16 16, b.bits.extractLsb' 0 16])) := by
  have hcut : cutGap ("::ffff:".toList ++ b.text) = some ([], "ffff:".toList ++ b.text) := rfl
  -- the printed IPv4 address has no colon, so it is a piece of its own
  have hpieces : Text.pieces (· == ':') ("ffff:".toList ++ b.text) = ["ffff".toList, b.text] := by
    have hjoin : Text.join [':'] ["ffff".toList, b.text] = "ffff:".toList ++ b.text := by
      rw [Text.join_cons_cons, Text.join, List.intercalate_singleton]
      rfl
    rw [← hjoin]
    refine Text.pieces_join (fun t ht hcolon => ?_) (List.cons_ne_nil _ _)
    rw [List.mem_cons, List.mem_singleton] at ht
    rcases ht with rfl | rfl
    · exact absurd hcolon (by decide)
    · exact absurd (V4.of_mem_text hcolon) (by decide)
  have hback : sideGroups? ("ffff:".toList ++ b.text) =
      some [0xffff, b.bits.extractLsb' 16 16, b.bits.extractLsb' 0 16] := by
    have hffff : group? "ffff".toList = some 0xffff := by decide
    rw [sideGroups?, if_neg (by simp), hpieces, groupsOf?, groupsOf?, hffff, V4.ofText?_text]
    · rfl
    · simp
  rw [ofText?, hcut]
  simp only [hback]
  rfl

/-- Groups without the zeros between them spell the address, if there is at least one zero. -/
lemma ofText?_gap {front back : List (BitVec 16)} {n : Nat} (hn : 0 < n)
    (hlength : front.length + n + back.length = 8) :
    ofText? (groupsText front ++ "::".toList ++ groupsText back) =
      some (ofGroups (front ++ List.replicate n 0 ++ back)) := by
  have hcut : cutGap (groupsText front ++ "::".toList ++ groupsText back) =
      some (groupsText front, groupsText back) := by
    rw [List.append_assoc, cutGap_groupsText]
    change some (groupsText front ++ [], groupsText back) = _
    rw [List.append_nil]
  have hdot : (groupsText front).contains '.' = false := by
    rw [Bool.eq_false_iff, ne_eq, List.contains_iff_mem]
    intro hmem
    exact absurd (of_mem_groupsText hmem) (by decide)
  have hzeros : 8 - front.length - back.length = n := by omega
  rw [ofText?, hcut]
  simp only [hdot, sideGroups?_groupsText, hzeros]
  rw [if_neg (by decide), if_pos (by omega)]

/-- Eight printed groups spell the address that they make up. -/
lemma ofText?_groupsText (hlength : gs.length = 8) : ofText? (groupsText gs) = some (ofGroups gs) := by
  have hcut : cutGap (groupsText gs) = none := by
    rw [← List.append_nil (groupsText gs), cutGap_groupsText]
    rfl
  have hne : gs ≠ [] := List.ne_nil_of_length_eq_add_one hlength
  rw [ofText?, hcut]
  simp only [pieces_groupsText hne, groupsOf?_map_groupText, hlength]
  rfl

/-- A printed IPv6 address is read back, whichever form it has. -/
lemma ofText?_text (a : V6) : ofText? a.text = some a := by
  have hlength : a.groups.length = 8 := rfl
  rw [text]
  split
  · next b hb =>
    rw [ofText?_mapped, ← groups_of_mapped? hb, ofGroups_groups]
  · split
    next start length hrun =>
    split
    · next hlt =>
      have hgroups := eq_of_zeroRun hrun
      have hparts := congrArg List.length hgroups
      rw [List.length_append, List.length_append, List.length_replicate, hlength] at hparts
      rw [ofText?_gap (by omega) hparts.symm, ← hgroups, ofGroups_groups]
    · rw [ofText?_groupsText hlength, ofGroups_groups]

/-- A printed IPv6 address has letters, digits, dots and colons only. -/
lemma of_mem_text {a : V6} (hc : c ∈ a.text) : c.isAlphanum ∨ c = '.' ∨ c = ':' := by
  rw [text] at hc
  split at hc
  · rcases List.mem_append.mp hc with hc | hc
    · have hall : "::ffff:".toList.all (fun c => c.isAlphanum || c == ':') := by decide
      have hmark := List.all_eq_true.mp hall c hc
      rw [Bool.or_eq_true, beq_iff_eq] at hmark
      exact hmark.imp_right .inr
    · exact (V4.of_mem_text hc).imp_right .inl
  · split at hc
    next start length _ =>
    split at hc
    · rw [List.mem_append, List.mem_append] at hc
      rcases hc with (hc | hc) | hc
      · exact (of_mem_groupsText hc).imp_right .inr
      · have hcolons : c ∈ [':', ':'] := hc
        rw [List.mem_cons, List.mem_singleton, or_self] at hcolons
        exact .inr (.inr hcolons)
      · exact (of_mem_groupsText hc).imp_right .inr
    · exact (of_mem_groupsText hc).imp_right .inr

end V6

end SenderPolicy
