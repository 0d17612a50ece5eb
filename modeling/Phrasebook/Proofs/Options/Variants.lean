import Phrasebook.Proofs.Options.Update
import Phrasebook.Proofs.Value.Sorting

namespace Phrasebook

/-!
# The canonical form of plural variants

Variants may be given as a list, as a tuple or as a set of names, and are stored in one order each,
without repetitions:

* `Collection` — the ways to give names;
* `Collection.Canonical` — what is stored of a collection: its members, each once, in the order of
  their first places, or, for a set, the standard variants in the order of the standard and then the
  others in that of their code points;
* `Collection.Canonical.eq`, `Collection.Canonical.of_members` — this determines what is stored, and
  of a set it depends on the members alone;
* `Collection.check_of`, `Collection.check_set_congr` — validation comes to the canonical form, or
  to an error that for a set depends on the members alone;
* `Resolver.Reachable.variants_canonical` — so do writes, overrides and defaults, and writing what
  is stored once more changes nothing.
-/

/-! ### First places -/

/-- `eraseDups` keeps the order of what it keeps. -/
theorem eraseDups_sublist {α : Type} [BEq α] [LawfulBEq α] (l : List α) :
    l.eraseDups.Sublist l := by
  induction l using eraseDups_induction with
  | nil => exact .slnil
  | cons a t ih =>
    rw [List.eraseDups_cons]
    exact (ih.trans List.filter_sublist).cons_cons a

/-- Two items that a filter keeps come in the same order before it. -/
theorem idxOf_lt_of_filter {α : Type} [BEq α] [LawfulBEq α] {p : α → Bool} {l : List α} {a b : α}
    (ha : p a = true) (hb : p b = true) (h : (l.filter p).idxOf a < (l.filter p).idxOf b) :
    l.idxOf a < l.idxOf b := by
  induction l with
  | nil => simp at h
  | cons c t ih =>
    by_cases hc : p c = true
    · rw [List.filter_cons_of_pos hc] at h
      -- The first item stays first, so nothing comes before it and both others go one place down.
      by_cases hcb : c = b
      · subst hcb
        rw [List.idxOf_cons_self] at h
        exact absurd h (Nat.not_lt_zero _)
      · by_cases hca : c = a
        · subst hca
          rw [List.idxOf_cons_self, List.idxOf_cons, beq_false_of_ne hcb, cond_false]
          exact Nat.succ_pos _
        · simp only [List.idxOf_cons, beq_false_of_ne hca, beq_false_of_ne hcb, cond_false] at h ⊢
          exact Nat.succ_lt_succ (ih (Nat.lt_of_succ_lt_succ h))
    · -- What the filter drops is neither of the two.
      have hca : c ≠ a := fun e => hc (e ▸ ha)
      have hcb : c ≠ b := fun e => hc (e ▸ hb)
      rw [List.filter_cons_of_neg hc] at h
      simp only [List.idxOf_cons, beq_false_of_ne hca, beq_false_of_ne hcb, cond_false]
      exact Nat.succ_lt_succ (ih h)

/-- `eraseDups` keeps each item at its first place. -/
theorem pairwise_idxOf_eraseDups {α : Type} [BEq α] [LawfulBEq α] (l : List α) :
    l.eraseDups.Pairwise fun a b => l.idxOf a < l.idxOf b := by
  induction l using eraseDups_induction with
  | nil => exact .nil
  | cons a t ih =>
    have hne : ∀ b ∈ (t.filter fun c => !c == a).eraseDups, b ≠ a := by
      intro b hb
      simpa using (List.mem_filter.mp (List.mem_eraseDups.mp hb)).2
    -- The first item is found at once, any other one place later than in the tail.
    have hsucc : ∀ b, b ≠ a → (a :: t).idxOf b = t.idxOf b + 1 := by
      intro b hb
      rw [List.idxOf_cons, beq_false_of_ne hb.symm, cond_false]
    rw [List.eraseDups_cons, List.pairwise_cons]
    constructor
    · intro b hb
      rw [List.idxOf_cons_self, hsucc b (hne b hb)]
      exact Nat.succ_pos _
    · -- The induction is on the tail without the first item, which keeps the order of the others.
      refine ih.imp_of_mem fun {b c} hb hc hbc => ?_
      rw [hsucc b (hne b hb), hsucc c (hne c hc)]
      refine Nat.succ_lt_succ (idxOf_lt_of_filter ?_ ?_ hbc)
      · simpa using hne b hb
      · simpa using hne c hc

/-! ### Collections of names -/

/-- What names are given in. -/
inductive Collection where
  | list
  | tuple
  | set
  deriving DecidableEq, Repr

namespace Collection

/-- Names in a collection. -/
def of : Collection → List String → Value
  | .list, names => .list (names.map .text)
  | .tuple, names => .tuple (names.map .text)
  | .set, names => .set (names.map .text)

/-- The order that a collection of names is brought into: that of their first places, or, as a set
    has none, the order of the standard and then that of code points, which is what `<` is on
    names. -/
def Ordered : Collection → List String → List String → Prop
  | .set, names, stored =>
    ∃ others : List String, stored = standardVariants.filter (· ∈ names) ++ others ∧
      (∀ n ∈ others, n ∉ standardVariants) ∧ others.Pairwise (· < ·)
  | _, names, stored => stored.Pairwise fun a b => names.idxOf a < names.idxOf b

/-- The form that a collection of names is stored in. -/
structure Canonical (c : Collection) (names stored : List String) : Prop where
  members : ∀ n, n ∈ stored ↔ n ∈ names
  nodup : stored.Nodup
  ordered : c.Ordered names stored

/-- Of a set it depends on the members alone. -/
theorem Canonical.of_members {names names' stored : List String}
    (h : Collection.set.Canonical names stored) (hmembers : ∀ n, n ∈ names' ↔ n ∈ names) :
    Collection.set.Canonical names' stored := by
  obtain ⟨others, hstored, hothers, hascending⟩ := h.ordered
  refine ⟨fun n => (h.members n).trans (hmembers n).symm, h.nodup, others, ?_, hothers, hascending⟩
  rw [hstored]
  simp only [hmembers]

/-- There is one such form at most. -/
theorem Canonical.eq {c : Collection} {names a b : List String} (ha : c.Canonical names a)
    (hb : c.Canonical names b) : a = b := by
  have hperm : a.Perm b := (List.perm_ext_iff_of_nodup ha.nodup hb.nodup).mpr fun n =>
    (ha.members n).trans (hb.members n).symm
  have hfirst : (a.Pairwise fun m n => names.idxOf m < names.idxOf n) →
      (b.Pairwise fun m n => names.idxOf m < names.idxOf n) → a = b := fun hforward hforward' =>
    hperm.eq_of_pairwise (fun m n _ _ hmn hnm => absurd hmn (Nat.lt_asymm hnm)) hforward hforward'
  cases c with
  | list => exact hfirst ha.ordered hb.ordered
  | tuple => exact hfirst ha.ordered hb.ordered
  | set =>
    -- The standard variants are the same, so the others are, and those are sorted.
    obtain ⟨others, rfl, _, hascending⟩ := ha.ordered
    obtain ⟨others', rfl, _, hascending'⟩ := hb.ordered
    have hrest : others.Perm others' := (List.perm_append_left_iff _).mp hperm
    rw [hrest.eq_of_pairwise (fun m n _ _ hmn hnm => absurd hmn (String.lt_asymm hnm)) hascending
      hascending']

/-! ### What is stored -/

/-- Names in a sequence are stored without repetitions. -/
theorem canonical_of_ne_set {c : Collection} (hc : c ≠ .set) (names : List String) :
    c.Canonical names names.eraseDups := by
  refine ⟨fun n => List.mem_eraseDups, nodup_eraseDups names, ?_⟩
  cases c with
  | list => exact pairwise_idxOf_eraseDups names
  | tuple => exact pairwise_idxOf_eraseDups names
  | set => exact absurd rfl hc

/-- Standard variants with sorted others after them are stored without the repetitions among the
    others. -/
theorem canonical_set {names others : List String}
    (hothers : others.Perm (names.filter (· ∉ standardVariants)))
    (hascending : others.Pairwise (· ≤ ·)) :
    Collection.set.Canonical names
      (standardVariants.filter (· ∈ names) ++ others).eraseDups := by
  have hmem : ∀ n, n ∈ others ↔ n ∈ names ∧ n ∉ standardVariants := by
    intro n
    rw [hothers.mem_iff, List.mem_filter, decide_eq_true_iff]
  -- The two parts have no name in common, so repetitions are dropped in each by itself.
  have hnodup : (standardVariants.filter (· ∈ names)).Nodup :=
    List.Nodup.filter _ (by decide)
  have hapart : others.removeAll (standardVariants.filter (· ∈ names)) = others := by
    refine List.filter_eq_self.mpr fun n hn => ?_
    simp [((hmem n).mp hn).2]
  have hstored : (standardVariants.filter (· ∈ names) ++ others).eraseDups =
      standardVariants.filter (· ∈ names) ++ others.eraseDups := by
    rw [List.eraseDups_append, eraseDups_of_nodup hnodup, hapart]
  refine ⟨fun n => ?_, nodup_eraseDups _, others.eraseDups, hstored, fun n hn => ?_, ?_⟩
  · rw [List.mem_eraseDups, List.mem_append, hmem, List.mem_filter, decide_eq_true_iff]
    by_cases hn : n ∈ standardVariants <;> simp [hn]
  · exact ((hmem n).mp (List.mem_eraseDups.mp hn)).2
  · -- Without repetitions, what is in ascending order is strictly so.
    refine (hascending.sublist (eraseDups_sublist others)).imp₂ ?_ (nodup_eraseDups others)
    intro m n hmn hne
    by_contra hnot
    exact hne (String.le_antisymm hmn (String.not_lt.mp hnot))

/-- The members that a collection lists are, without repetitions, in the canonical form. -/
theorem exists_asMembers (c : Collection) (names : List String) :
    ∃ given : List String, (c.of names).asMembers = .ok (given.map .text) ∧
      c.Canonical names given.eraseDups := by
  cases c with
  | list => exact ⟨names, rfl, canonical_of_ne_set (by decide) names⟩
  | tuple => exact ⟨names, rfl, canonical_of_ne_set (by decide) names⟩
  | set =>
    obtain ⟨others, horder, hothers, hascending⟩ := orderVariants?_texts names
    refine ⟨_, ?_, canonical_set hothers hascending⟩
    simp only [of, Value.asMembers, horder]

end Collection

/-! ### Validation -/

/-- Whether names can serve as variants: none is empty, and the essential ones are among them. -/
def Serve (names : List String) : Prop := "" ∉ names ∧ "one" ∈ names ∧ "other" ∈ names

/-- The reason against names that cannot. -/
def refusal (names : List String) : Reason :=
  if "" ∈ names then .emptyVariant
  else .missingVariants (essentialVariants.filter (· ∉ names))

/-- Both depend on the members alone. -/
theorem serve_congr {names names' : List String} (h : ∀ n, n ∈ names' ↔ n ∈ names) :
    (Serve names' ↔ Serve names) ∧ refusal names' = refusal names := by
  simp only [Serve, refusal, h, and_self]

/-- Names that cannot serve are refused. -/
theorem checkVariants_of_not_serve {names : List String} (h : ¬ Serve names) :
    checkVariants names = .error (refusal names) := by
  unfold checkVariants refusal
  by_cases hempty : "" ∈ names
  · have hany : names.any String.isEmpty = true := by simpa [List.any_eq_true] using hempty
    rw [if_pos hany, if_pos hempty]
  · have hany : ¬ names.any String.isEmpty = true := by simpa [List.any_eq_true] using hempty
    rw [if_neg hany, if_neg hempty]
    simp only [List.contains_eq_mem, ← decide_not]
    split
    · rename_i hnone
      exact absurd ⟨hempty, by simpa [essentialVariants, List.filter_eq_nil_iff] using hnone⟩ h
    · rfl

namespace Collection

/-- A collection of names that can serve is taken in the canonical form, and any other is refused
    for the names in it. -/
theorem check_of (c : Collection) (names : List String) :
    ∃ stored, c.Canonical names stored ∧
      (Serve names → OptionName.pluralizationKeys.check (c.of names) =
        .ok (.pluralizationKeys stored)) ∧
      (¬ Serve names → OptionName.pluralizationKeys.check (c.of names) =
        .error (.reasons [refusal names])) := by
  obtain ⟨given, hgiven, hcanonical⟩ := c.exists_asMembers names
  -- Whether names can serve shows in their members, and those are not changed by putting them in
  -- order.
  have hmembers : ∀ n, n ∈ given ↔ n ∈ names := fun n =>
    List.mem_eraseDups.symm.trans (hcanonical.members n)
  obtain ⟨hserve, hrefusal⟩ := serve_congr hmembers
  refine ⟨given.eraseDups, hcanonical, fun h => ?_, fun h => ?_⟩
  · have hcheck : checkVariants given = .ok given.eraseDups :=
      checkVariants_eq_ok_iff.mpr ⟨hserve.mpr h, rfl⟩
    simp only [OptionName.check, hgiven, variantNames_map_text, hcheck]
  · have hcheck := checkVariants_of_not_serve (mt hserve.mp h)
    simp only [OptionName.check, hgiven, variantNames_map_text, hcheck, hrefusal]

/-- Whatever is made of names, they can serve and it is their canonical form. -/
theorem serve_of_check {c : Collection} {names stored : List String}
    (hstored : c.Canonical names stored) {s : Setting}
    (h : OptionName.pluralizationKeys.check (c.of names) = .ok s) :
    Serve names ∧ s = .pluralizationKeys stored := by
  obtain ⟨made, hmade, hok, herror⟩ := c.check_of names
  by_cases hs : Serve names
  · rw [hok hs, hmade.eq hstored] at h
    exact ⟨hs, (Except.ok.inj h).symm⟩
  · rw [herror hs] at h
    cases h

/-- What a set of names comes to depends on its members alone. -/
theorem check_set_congr {names names' : List String} (h : ∀ n, n ∈ names' ↔ n ∈ names) :
    OptionName.pluralizationKeys.check (Collection.set.of names') =
      OptionName.pluralizationKeys.check (Collection.set.of names) := by
  obtain ⟨hserve, hrefusal⟩ := serve_congr h
  obtain ⟨stored, hstored, hok, herror⟩ := check_of .set names
  obtain ⟨stored', hstored', hok', herror'⟩ := check_of .set names'
  by_cases hs : Serve names
  · rw [hok hs, hok' (hserve.mpr hs), hstored'.eq (hstored.of_members h)]
  · rw [herror hs, herror' (mt hserve.mp hs), hrefusal]

/-- Names that are stored already are taken as they are, in a list or in a tuple. -/
theorem check_of_nodup {c : Collection} (hc : c ≠ .set) {names : List String} (hs : Serve names)
    (hnodup : names.Nodup) :
    OptionName.pluralizationKeys.check (c.of names) = .ok (.pluralizationKeys names) := by
  obtain ⟨stored, hstored, hok, _⟩ := c.check_of names
  have hkept : stored = names := by
    rw [hstored.eq (canonical_of_ne_set hc names), eraseDups_of_nodup hnodup]
  rw [hok hs, hkept]

/-- Options that have names for plural variants are valid together exactly when the names can serve
    and every other value is valid. -/
theorem ofRaw_isOk_iff {c : Collection} {names : List String} {raw : RawOptions}
    (hraw : raw .pluralizationKeys = some (c.of names)) :
    (∃ values, OptionValues.ofRaw raw = .ok values) ↔
      Serve names ∧ ∀ o ≠ .pluralizationKeys, ∃ v s, raw o = some v ∧ o.check v = .ok s := by
  obtain ⟨stored, hstored, hok, _⟩ := c.check_of names
  rw [Phrasebook.ofRaw_isOk_iff]
  constructor
  · intro hall
    obtain ⟨v, s, hv, hcheck⟩ := hall .pluralizationKeys
    cases hraw.symm.trans hv
    exact ⟨(serve_of_check hstored hcheck).1, fun o _ => hall o⟩
  · rintro ⟨hs, hothers⟩ o
    by_cases ho : o = .pluralizationKeys
    · subst ho
      exact ⟨_, _, hraw, hok hs⟩
    · exact hothers o ho

end Collection

/-! ### Writes, overrides and defaults -/

namespace Resolver

/-- A setting that has just been written is written once if it is written again. -/
theorem write_write (r : Resolver) (s : Setting) : (r.write s).write s = r.write s := by
  simp [write, List.filter_filter]

/-- An update that succeeds has written the setting that the winning value of an option is. -/
theorem Valid.exists_written_of_update {r r' : Resolver} (hr : r.Valid) {entries : Entries}
    {o : OptionName} {v : Value} (hwinner : entries.winner? o = some v)
    (success : r.update entries = .ok r') :
    ∃ s, o.check v = .ok s ∧ r'.written.find? (·.option == o) = some s := by
  have haccepted := hr.update_isOk_iff.mp ⟨r', success⟩
  obtain ⟨_, hr'', _, _, hwritten⟩ := hr.update_of_accepted haccepted
  cases success.symm.trans hr''
  obtain ⟨s, hs⟩ := (Entries.accepted_iff.mp haccepted).2 o v hwinner
  refine ⟨s, hs, ?_⟩
  rw [hwritten, Entries.stored?, if_pos haccepted, hwinner, Option.bind_some, hs]
  rfl

/-- **Plural variants have a canonical form.**  Names in a list, a tuple or a set are taken for
    plural variants, by a write and by an override, exactly when none is empty and `one` and `other`
    are among them; else they are refused for that.  What is stored has the members that were given,
    each once: those of a list or a tuple in the order of their first places, those of a set in the
    order of the standard, with the others after them in the order of their code points, whatever
    order the set lists them in.  To write what is stored once more, as a list or as a tuple,
    changes nothing.  An update that gives them and succeeds stores the same, and so does a
    validation of all options together, which succeeds exactly when they can serve and every other
    value is valid. -/
theorem Reachable.variants_canonical {r : Resolver} (hr : r.Reachable) {name : Value}
    (hname : resolveName name = .ok .pluralizationKeys) (c : Collection) (names : List String) :
    ∃ stored, c.Canonical names stored ∧ (∀ other, c.Canonical names other → other = stored) ∧
      (Serve names →
        r.set name (c.of names) = .ok (r.write (.pluralizationKeys stored)) ∧
        r.enter name (c.of names) = .ok (r.push (.pluralizationKeys stored)) ∧
        ∀ again : Collection, again ≠ .set →
          (r.write (.pluralizationKeys stored)).set name (again.of stored) =
            .ok (r.write (.pluralizationKeys stored))) ∧
      (¬ Serve names → ∃ e : OptionError,
        e = .invalid (.option .pluralizationKeys) [(.pluralizationKeys, refusal names)] ∧
        r.set name (c.of names) = .error e ∧ r.enter name (c.of names) = .error e) ∧
      (∀ entries r', entries.winner? .pluralizationKeys = some (c.of names) →
        r.update entries = .ok r' → Serve names ∧
          r'.written.find? (·.option == .pluralizationKeys) = some (.pluralizationKeys stored)) ∧
      (∀ raw : RawOptions, raw .pluralizationKeys = some (c.of names) →
        ((∃ values, OptionValues.ofRaw raw = .ok values) ↔
          Serve names ∧ ∀ o ≠ .pluralizationKeys, ∃ v s, raw o = some v ∧ o.check v = .ok s) ∧
        ∀ values, OptionValues.ofRaw raw = .ok values → values.pluralizationKeys = stored) ∧
      ∀ names', (∀ n, n ∈ names' ↔ n ∈ names) →
        r.set name (Collection.set.of names') = r.set name (Collection.set.of names) ∧
        r.enter name (Collection.set.of names') = r.enter name (Collection.set.of names) := by
  have hvalid := hr.valid
  have hverdict : ∀ v, verdict name v = OptionName.pluralizationKeys.verdict v := fun v =>
    verdict_of_named (resolveName_eq_ok_iff.mp hname) v
  obtain ⟨stored, hstored, hok, herror⟩ := c.check_of names
  refine ⟨stored, hstored, fun other hother => hother.eq hstored, fun hs => ?taken,
    fun hs => ?refused, fun entries r' hwinner success => ?updated,
    fun raw hraw => ⟨Collection.ofRaw_isOk_iff hraw, fun values hvalues => ?validated⟩,
    fun names' hmembers => ?reordered⟩
  case taken =>
    have htaken : verdict name (c.of names) = .ok (.pluralizationKeys stored) := by
      rw [hverdict, OptionName.verdict, hok hs]
    have hagain : (Setting.pluralizationKeys stored).Valid :=
      (valid_of_check (hok hs)).2
    refine ⟨by rw [hvalid.set_eq, htaken]; rfl, by rw [hvalid.enter_eq, htaken]; rfl, ?_⟩
    intro again hsequence
    have htaken' : verdict name (again.of stored) = .ok (.pluralizationKeys stored) := by
      rw [hverdict, OptionName.verdict, Collection.check_of_nodup hsequence hagain.2 hagain.1]
    rw [(hvalid.write hagain).set_eq, htaken', Except.map, write_write]
  case refused =>
    have hrefused : verdict name (c.of names) =
        .error (.invalid (.option .pluralizationKeys) [(.pluralizationKeys, refusal names)]) := by
      rw [hverdict, OptionName.verdict, herror hs]
      rfl
    refine ⟨_, rfl, ?_, ?_⟩
    · rw [hvalid.set_eq, hrefused]
      rfl
    · rw [hvalid.enter_eq, hrefused]
      rfl
  case updated =>
    obtain ⟨s, hcheck, hwritten⟩ := hvalid.exists_written_of_update hwinner success
    obtain ⟨hs, rfl⟩ := Collection.serve_of_check hstored hcheck
    exact ⟨hs, hwritten⟩
  case validated =>
    obtain ⟨v, hv, hcheck⟩ := ofRaw_eq_ok_iff.mp hvalues .pluralizationKeys
    cases hraw.symm.trans hv
    exact Setting.pluralizationKeys.inj (Collection.serve_of_check hstored hcheck).2
  case reordered =>
    have hsame : verdict name (Collection.set.of names') =
        verdict name (Collection.set.of names) := by
      rw [hverdict, hverdict, OptionName.verdict, OptionName.verdict,
        Collection.check_set_congr hmembers]
    exact ⟨by rw [hvalid.set_eq, hvalid.set_eq, hsame],
      by rw [hvalid.enter_eq, hvalid.enter_eq, hsame]⟩

/-- A set of four names is stored with the standard variants first. -/
theorem variants_canonical_dual :
    (ofDefaults builtInValues).Reachable ∧
      resolveName (.text "pluralizationKeys") = .ok .pluralizationKeys ∧
      (ofDefaults builtInValues).set (.text "pluralizationKeys")
          (.set [.text "paucal", .text "other", .text "dual", .text "one"]) =
        .ok ((ofDefaults builtInValues).write
          (.pluralizationKeys ["one", "other", "dual", "paucal"])) := by
  have hbuilt : (ofDefaults builtInValues).Reachable := .built build_builtIn
  have hname : resolveName (.text "pluralizationKeys") = .ok .pluralizationKeys :=
    resolveName_eq_ok_iff.mpr (by
      simp [OptionName.ofValue?, OptionName.ofText?, OptionName.all, OptionName.canonical,
        OptionName.inFiles])
  obtain ⟨stored, _, hunique, htaken, _⟩ :=
    hbuilt.variants_canonical hname .set ["paucal", "other", "dual", "one"]
  have hcanonical : Collection.set.Canonical ["paucal", "other", "dual", "one"]
      ["one", "other", "dual", "paucal"] := by
    refine ⟨fun n => ?_, by simp, ["dual", "paucal"], by simp [standardVariants],
      by simp [standardVariants], by decide⟩
    simp only [List.mem_cons, List.not_mem_nil, or_false]
    grind
  obtain ⟨hset, _⟩ := htaken (by simp [Serve])
  rw [← hunique _ hcanonical] at hset
  exact ⟨hbuilt, hname, hset⟩

end Resolver

end Phrasebook
