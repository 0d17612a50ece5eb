import Phrasebook.Proofs.Options.Spelling
import Phrasebook.Proofs.Project.Dictionaries
import Phrasebook.Proofs.Value.Equality

namespace Phrasebook

/-!
# One file over the other

The configuration of a project is the section of `package.json` with the dictionary of `.i18nrc` put
into it:

* `Project.load_fst` — what a project with both files loads;
* `Valid.apply_merge_in_turn_iff` — when a dictionary put over another one makes of the options what
  the two in turn do;
* `Project.load_layered` — the options that nothing overtakes are what the two files in turn make
  them, and all options are exactly if what overtakes comes to the same.
-/

/-! ### Application -/

namespace Resolver

/-- What a configuration makes of an option: an override in force, else the value that wins, else
    what the option has been worth. -/
theorem Valid.setting_of_apply {r r' : Resolver} (hr : r.Valid) {config : Entries}
    (success : r.apply config = .ok r') (o : OptionName) :
    r'.setting o = ((r.overrides.find? (·.option == o)).or
      (((config.winner? o).bind fun v => (o.check v).toOption).or
        (r.written.find? (·.option == o)))).getD (r.defaults.setting o) := by
  obtain ⟨hdefaults, hoverrides, hwritten⟩ := hr.of_apply success
  rw [setting_eq, hdefaults, hoverrides, hwritten]

/-- Configurations that give an option the same value make the same of it. -/
theorem Valid.setting_eq_of_winner? {r r₁ r₂ : Resolver} (hr : r.Valid) {first second : Entries}
    (hfirst : r.apply first = .ok r₁) (hsecond : r.apply second = .ok r₂) {o : OptionName}
    (hwinner : first.winner? o = second.winner? o) : r₁.setting o = r₂.setting o := by
  rw [hr.setting_of_apply hfirst, hr.setting_of_apply hsecond, hwinner]

/-- A value that is set is the winner of a configuration of its own. -/
theorem set_canonical (r : Resolver) (o : OptionName) (w : Value) :
    ∃ config : Entries, r.set (.text o.canonical) w = r.apply config ∧
      ∀ p v, config.winner? p = some v ↔ p = o ∧ v = w := by
  have hname : OptionName.ofValue? (.text o.canonical) = some o :=
    OptionName.ofText?_eq_some_iff.mpr (.inl rfl)
  refine ⟨[(.text o.canonical, w)], r.set_eq_apply hname w, fun p v => ?_⟩
  rw [Entries.winner?_cons, hname]
  by_cases hp : o = p
  · simp [Entries.winner?, hp, eq_comm]
  · simp [Entries.winner?, hp, Ne.symm hp]

/-- What a configuration makes of an option is what setting its winning value does. -/
theorem Valid.exists_set_of_apply {r r' : Resolver} (hr : r.Valid) {config : Entries}
    (success : r.apply config = .ok r') {o : OptionName} {w : Value}
    (hwinner : config.winner? o = some w) :
    ∃ rset, r.set (.text o.canonical) w = .ok rset ∧ r'.setting o = rset.setting o := by
  obtain ⟨single, hset, hsingle⟩ := r.set_canonical o w
  have hvalid : ∀ p v, single.winner? p = some v → ∃ s, p.check v = .ok s := by
    intro p v hv
    obtain ⟨rfl, rfl⟩ := (hsingle p v).mp hv
    exact hr.apply_isOk_iff.mp ⟨r', success⟩ p v hwinner
  obtain ⟨rset, hrset⟩ := hr.apply_isOk_iff.mpr hvalid
  have hsame : config.winner? o = single.winner? o := by
    rw [hwinner, (hsingle o w).mpr ⟨rfl, rfl⟩]
  exact ⟨rset, hset.trans hrset, hr.setting_eq_of_winner? success hrset hsame⟩

/-- A value that can be set is valid. -/
theorem Valid.check_of_set {r rset : Resolver} (hr : r.Valid) {o : OptionName} {w : Value}
    (success : r.set (.text o.canonical) w = .ok rset) : ∃ s, o.check w = .ok s := by
  obtain ⟨single, hset, hsingle⟩ := r.set_canonical o w
  exact hr.apply_isOk_iff.mp ⟨rset, hset.symm.trans success⟩ o w ((hsingle o w).mpr ⟨rfl, rfl⟩)

/-- A configuration that is applied after another one counts first. -/
theorem Valid.setting_eq_of_winner?_or {r rP rPR r' : Resolver} (hr : r.Valid)
    {P R config : Entries} (hP : r.apply P = .ok rP) (hPR : rP.apply R = .ok rPR)
    (hconfig : r.apply config = .ok r') {o : OptionName}
    (hwinner : config.winner? o = (R.winner? o).or (P.winner? o)) :
    r'.setting o = rPR.setting o := by
  have hrP : rP.Valid := hr.update hP
  obtain ⟨hdefaults, hoverrides, hwritten⟩ := hr.of_apply hP
  rw [hr.setting_of_apply hconfig, hrP.setting_of_apply hPR, hdefaults, hoverrides, hwritten,
    hwinner]
  cases hv : R.winner? o with
  | none => rfl
  | some v =>
    obtain ⟨s, hs⟩ := hrP.apply_isOk_iff.mp ⟨rPR, hPR⟩ o v hv
    simp [hs, Except.toOption]

/-- What it says of an option is what it makes of the option alone. -/
theorem Valid.setting_eq_alone {r rP rPR rR : Resolver} (hr : r.Valid) {P R : Entries}
    (hP : r.apply P = .ok rP) (hPR : rP.apply R = .ok rPR) (hR : r.apply R = .ok rR)
    {o : OptionName} {v : Value} (hwinner : R.winner? o = some v) :
    rPR.setting o = rR.setting o := by
  have hsame : R.winner? o = (R.winner? o).or (P.winner? o) := by rw [hwinner, Option.some_or]
  exact (hr.setting_eq_of_winner?_or hP hPR hR hsame).symm

section Merged

variable {r rP rPR r' : Resolver} (hr : r.Valid) {P R : Entries} (hPdistinct : P.Distinct)
  (hRdistinct : R.Distinct)

include hr hPdistinct hRdistinct

/-- An option that nothing overtakes is what the two dictionaries in turn make it. -/
theorem Valid.setting_merge_of_not_overtakes (hP : r.apply P = .ok rP)
    (hPR : rP.apply R = .ok rPR) (hmerged : r.apply (Entries.merge P R) = .ok r') {o : OptionName}
    (hnone : ∀ w, ¬ Entries.Overtakes o w P R) : r'.setting o = rPR.setting o :=
  hr.setting_eq_of_winner?_or hP hPR hmerged
    (Entries.winner?_merge_of_not_overtakes hPdistinct hRdistinct hnone)

/-- Any other is what the value that overtakes makes it. -/
theorem Valid.setting_merge_of_overtakes (hmerged : r.apply (Entries.merge P R) = .ok r')
    {o : OptionName} {w : Value} (hw : Entries.Overtakes o w P R) :
    ∃ rset, r.set (.text o.canonical) w = .ok rset ∧ r'.setting o = rset.setting o :=
  hr.exists_set_of_apply hmerged (Entries.winner?_merge_of_overtakes hPdistinct hRdistinct hw)

/-- Two dictionaries that can be applied can be applied as one if every value that overtakes can be
    set. -/
theorem Valid.exists_apply_merge (hP : ∃ rP, r.apply P = .ok rP) (hR : ∃ rR, r.apply R = .ok rR)
    (hset : ∀ o w, Entries.Overtakes o w P R → ∃ rset, r.set (.text o.canonical) w = .ok rset) :
    ∃ r', r.apply (Entries.merge P R) = .ok r' := by
  rw [hr.apply_isOk_iff] at hP hR ⊢
  intro o v hv
  by_cases hnone : ∀ w, ¬ Entries.Overtakes o w P R
  · rw [Entries.winner?_merge_of_not_overtakes hPdistinct hRdistinct hnone] at hv
    rcases Option.or_eq_some_iff.mp hv with hv | ⟨_, hv⟩
    · exact hR o v hv
    · exact hP o v hv
  · obtain ⟨w, hw⟩ := not_forall_not.mp hnone
    obtain ⟨rset, hrset⟩ := hset o w hw
    cases hv.symm.trans (Entries.winner?_merge_of_overtakes hPdistinct hRdistinct hw)
    exact hr.check_of_set hrset

/-- As one they make of all options what they do in turn exactly if every value that overtakes can
    be set and comes to the same. -/
theorem Valid.apply_merge_in_turn_iff (hP : r.apply P = .ok rP) (hR : ∃ rR, r.apply R = .ok rR)
    (hPR : rP.apply R = .ok rPR) :
    (∃ r', r.apply (Entries.merge P R) = .ok r' ∧ ∀ o, r'.setting o = rPR.setting o) ↔
      ∀ o w, Entries.Overtakes o w P R →
        ∃ rset, r.set (.text o.canonical) w = .ok rset ∧ rset.setting o = rPR.setting o := by
  constructor
  · rintro ⟨r', hmerged, hsame⟩ o w hw
    obtain ⟨rset, hrset, heq⟩ := hr.setting_merge_of_overtakes hPdistinct hRdistinct hmerged hw
    exact ⟨rset, hrset, heq.symm.trans (hsame o)⟩
  · intro hharmless
    obtain ⟨r', hmerged⟩ := hr.exists_apply_merge hPdistinct hRdistinct ⟨rP, hP⟩ hR
      fun o w hw => (hharmless o w hw).imp fun _ h => h.1
    refine ⟨r', hmerged, fun o => ?_⟩
    by_cases hnone : ∀ w, ¬ Entries.Overtakes o w P R
    · exact hr.setting_merge_of_not_overtakes hPdistinct hRdistinct hP hPR hmerged hnone
    · obtain ⟨w, hw⟩ := not_forall_not.mp hnone
      obtain ⟨rset, hrset, heq⟩ := hharmless o w hw
      obtain ⟨_, hrset', heq'⟩ := hr.setting_merge_of_overtakes hPdistinct hRdistinct hmerged hw
      cases hrset.symm.trans hrset'
      exact heq'.trans heq

end Merged

end Resolver

/-! ### Loading -/

namespace Project

/-- A file that can be read is read with reports. -/
theorem readReported_fst {file : ConfigFile} {content : FileContent} {v : Value}
    (hread : file.read content = .ok v) (j : Log.Journal) :
    (readReported .here file content j).1 = .ok v := by
  have hhere : Site.here.read file content = .ok v := hread
  unfold readReported
  rw [hhere]
  rfl

/-- What `package.json` gives is its section. -/
theorem loadPackage_fst {content : FileContent} {v : Value}
    (hread : ConfigFile.package.read content = .ok v) (j : Log.Journal) :
    (loadPackage .here content j).1 = .ok (section? v) := by
  unfold loadPackage
  rw [Log.bind_apply, readReported_fst hread]
  dsimp only
  cases section? v <;> rfl

/-- What `.i18nrc` gives is the dictionary that it holds. -/
theorem loadRc_fst {content : FileContent} {v : Value} (hread : ConfigFile.rc.read content = .ok v)
    (j : Log.Journal) : (loadRc .here content j).1 = .ok (entries? v) := by
  unfold loadRc
  rw [Log.bind_apply, readReported_fst hread]
  dsimp only
  cases entries? v <;> rfl

/-- The configuration of a project with both files. -/
theorem load_fst {package rc : FileContent} {v w : Value}
    (hpackage : ConfigFile.package.read package = .ok v) (hrc : ConfigFile.rc.read rc = .ok w)
    (j : Log.Journal) :
    (load ⟨some package, some rc⟩ j).1 = .ok (combine (section? v) (entries? w)) := by
  unfold load loadAt loadIfThere
  rw [Log.bind_apply, loadPackage_fst hpackage]
  dsimp only
  rw [Log.bind_apply, loadRc_fst hrc]
  dsimp only
  cases (Entries.get? pluginsKey (combine (section? v) (entries? w))).filter Value.isPresent <;> rfl

/-- The configuration is the section with what `.i18nrc` holds put into it. -/
theorem combine_eq_merge {P : Entries} (hP : P.Distinct) (R : Entries) :
    combine (some P) (some R) = Entries.merge P R :=
  congrArg (Entries.merge · R) (Entries.ofPairs_of_distinct hP)

/-- **What a project with both files comes to, option by option.**  Let the section of
    `package.json` and the dictionary of `.i18nrc` each be a configuration that can be applied.
    Then the project loads, the two can be applied in turn, and what `.i18nrc` says of an option holds
    after that.  The loaded configuration makes of an option that nothing overtakes what the two in
    turn do, and of any other what setting the value that overtakes does; so it can be applied and
    makes of all options what the two in turn do exactly if every value that overtakes can be set
    and comes to the same. -/
theorem load_layered {r rP rR : Resolver} (hr : r.Reachable) {package rc : FileContent} {v : Value}
    {P R : Entries} (hpackage : ConfigFile.package.read package = .ok v)
    (hsection : section? v = some P) (hrc : ConfigFile.rc.read rc = .ok (.map R))
    (hP : r.apply P = .ok rP) (hR : r.apply R = .ok rR) (j : Log.Journal) :
    ∃ config rPR, (load ⟨some package, some rc⟩ j).1 = .ok config ∧ rP.apply R = .ok rPR ∧
      (∀ o, R.spellings o ≠ [] → rPR.setting o = rR.setting o) ∧
      ((∃ r', r.apply config = .ok r' ∧ ∀ o, r'.setting o = rPR.setting o) ↔
        ∀ o w, Entries.Overtakes o w P R →
          ∃ rset, r.set (.text o.canonical) w = .ok rset ∧ rset.setting o = rPR.setting o) ∧
      ∀ r', r.apply config = .ok r' → ∀ o,
        ((∀ w, ¬ Entries.Overtakes o w P R) → r'.setting o = rPR.setting o) ∧
        ∀ w, Entries.Overtakes o w P R →
          ∃ rset, r.set (.text o.canonical) w = .ok rset ∧ r'.setting o = rset.setting o := by
  have hvalid := hr.valid
  have hPdistinct := distinct_of_section hpackage hsection
  have hRdistinct := distinct_of_rc hrc
  have hload : (load ⟨some package, some rc⟩ j).1 = .ok (Entries.merge P R) := by
    rw [load_fst hpackage hrc, hsection]
    exact congrArg Except.ok (combine_eq_merge hPdistinct R)
  have hrP : rP.Valid := hvalid.update hP
  obtain ⟨rPR, hPR⟩ := hrP.apply_isOk_iff.mpr (hvalid.apply_isOk_iff.mp ⟨rR, hR⟩)
  refine ⟨_, rPR, hload, hPR, ?_, ?_, ?_⟩
  · intro o ho
    obtain ⟨w, hw⟩ := Entries.exists_winner?_of_spellings hRdistinct ho
    exact hvalid.setting_eq_alone hP hPR hR hw
  · exact hvalid.apply_merge_in_turn_iff hPdistinct hRdistinct hP ⟨rR, hR⟩ hPR
  · intro r' hmerged o
    exact ⟨hvalid.setting_merge_of_not_overtakes hPdistinct hRdistinct hP hPR hmerged,
      fun w => hvalid.setting_merge_of_overtakes hPdistinct hRdistinct hmerged⟩

/-! ### A limit in two spellings -/

/-- A section with the limit in both spellings. -/
def limitTwice : Entries :=
  [(.text "maxKeyLength", .int 20), (.text "max_key_length", .int 30),
    (.text "inferredKeyFormat", .text "literal")]

/-- A dictionary with the limit in one of them. -/
def limitOnce : Entries :=
  [(.text "inferred_key_format", .text "underscored"), (.text "maxKeyLength", .int 40)]

/-- The section in `package.json`. -/
def limitPackage : FileContent :=
  .octets (("\x7b\"i18n\": \x7b\"maxKeyLength\": 20, \"max_key_length\": 30, " ++
    "\"inferredKeyFormat\": \"literal\"\x7d\x7d").toList.map fun c => UInt8.ofNat c.toNat)

/-- The dictionary in `.i18nrc`. -/
def limitRc : FileContent :=
  .octets ("\x7b\"inferred_key_format\": \"underscored\", \"maxKeyLength\": 40\x7d".toList.map
    fun c => UInt8.ofNat c.toNat)

/-- The resolver with the built-in defaults. -/
def builtIn : Resolver := .ofDefaults builtInValues

/-- The section written over the defaults. -/
def limitSection : Resolver := (builtIn.write (.maxKeyLength 30)).write (.keyFormat .literal)

/-- The dictionary written over the defaults. -/
def limitAlone : Resolver := (builtIn.write (.keyFormat .underscored)).write (.maxKeyLength 40)

/-- The file holds the section. -/
theorem read_limitPackage :
    ConfigFile.package.read limitPackage = .ok (.map [(sectionName, .map limitTwice)]) := by
  decide +kernel

/-- That is the section which counts. -/
theorem section?_limitPackage :
    (section? (.map [(sectionName, .map limitTwice)])) = some limitTwice := rfl

/-- The file holds the dictionary. -/
theorem read_limitRc : ConfigFile.rc.read limitRc = .ok (.map limitOnce) := by
  decide +kernel

/-- The section can be applied; of the two limits the later one counts. -/
theorem apply_limitTwice : builtIn.apply limitTwice = .ok limitSection :=
  eq_ok_of_toOption (by decide +kernel)

/-- So can the dictionary. -/
theorem apply_limitOnce : builtIn.apply limitOnce = .ok limitAlone :=
  eq_ok_of_toOption (by decide +kernel)

/-- The limit of the dictionary keeps a place before the second one of the section, and so has none
    of its effect; the key format has the effect that it should. -/
theorem load_layered_limit :
    builtIn.Reachable ∧
      ConfigFile.package.read limitPackage = .ok (.map [(sectionName, .map limitTwice)]) ∧
      (section? (.map [(sectionName, .map limitTwice)]) = some limitTwice) ∧
      ConfigFile.rc.read limitRc = .ok (.map limitOnce) ∧
      builtIn.apply limitTwice = .ok limitSection ∧ builtIn.apply limitOnce = .ok limitAlone ∧
      ∃ config rPR, (load ⟨some limitPackage, some limitRc⟩ (.empty fun _ => "")).1 = .ok config ∧
        limitSection.apply limitOnce = .ok rPR ∧
        rPR.setting .maxKeyLength = .maxKeyLength 40 ∧
        ∀ r', builtIn.apply config = .ok r' → r'.setting .keyFormat = rPR.setting .keyFormat ∧
          r'.setting .maxKeyLength = .maxKeyLength 30 := by
  have hreachable : builtIn.Reachable := .built Resolver.build_builtIn
  obtain ⟨config, rPR, hload, hPR, hkept, -, heffects⟩ :=
    load_layered hreachable read_limitPackage section?_limitPackage read_limitRc apply_limitTwice
      apply_limitOnce (.empty fun _ => "")
  refine ⟨hreachable, read_limitPackage, section?_limitPackage, read_limitRc, apply_limitTwice,
    apply_limitOnce, config, rPR, hload, hPR, ?_, fun r' hr' => ⟨?_, ?_⟩⟩
  · rw [hkept .maxKeyLength (by decide +kernel)]
    decide +kernel
  · refine (heffects r' hr' .keyFormat).1 ?_
    rintro w ⟨s, t, -, hlast, hbefore, -⟩
    have hs : s = "inferred_key_format" := by
      have hlast' : (limitOnce.spellings .keyFormat).getLast? = some "inferred_key_format" := by
        decide +kernel
      exact Option.some.inj (hlast.symm.trans hlast')
    subst hs
    exact absurd hbefore (by decide +kernel)
  · have hovertakes : Entries.Overtakes .maxKeyLength (.int 30) limitTwice limitOnce :=
      ⟨"maxKeyLength", "max_key_length", by decide, by decide +kernel, by decide +kernel,
        .inl (by decide +kernel), by decide +kernel⟩
    obtain ⟨rset, hrset, heq⟩ := (heffects r' hr' .maxKeyLength).2 _ hovertakes
    have hset : builtIn.set (.text "max_key_length") (.int 30) =
        .ok (builtIn.write (.maxKeyLength 30)) := eq_ok_of_toOption (by decide +kernel)
    cases hset.symm.trans hrset
    rw [heq]
    decide +kernel

/-- Of this project the two configurations can be applied, and the limit is that of `.i18nrc` if
    they are applied in turn, or if `.i18nrc` is applied alone; but the loaded configuration makes
    it the one of `package.json`. -/
theorem load_limit_ne_in_turn :
    builtIn.Reachable ∧
      ConfigFile.package.read limitPackage = .ok (.map [(sectionName, .map limitTwice)]) ∧
      (section? (.map [(sectionName, .map limitTwice)]) = some limitTwice) ∧
      ConfigFile.rc.read limitRc = .ok (.map limitOnce) ∧
      builtIn.apply limitTwice = .ok limitSection ∧ builtIn.apply limitOnce = .ok limitAlone ∧
      ∃ config rPR r',
        (load ⟨some limitPackage, some limitRc⟩ (.empty fun _ => "")).1 = .ok config ∧
        limitSection.apply limitOnce = .ok rPR ∧ builtIn.apply config = .ok r' ∧
        limitAlone.setting .maxKeyLength = .maxKeyLength 40 ∧
        rPR.setting .maxKeyLength = .maxKeyLength 40 ∧
        r'.setting .maxKeyLength = .maxKeyLength 30 := by
  have hload : (load ⟨some limitPackage, some limitRc⟩ (.empty fun _ => "")).1 =
      .ok (Entries.merge limitTwice limitOnce) :=
    load_fst read_limitPackage read_limitRc _
  have hPR : limitSection.apply limitOnce =
      .ok ((limitSection.write (.keyFormat .underscored)).write (.maxKeyLength 40)) :=
    eq_ok_of_toOption (by decide +kernel)
  have hmerged : builtIn.apply (Entries.merge limitTwice limitOnce) =
      .ok ((builtIn.write (.maxKeyLength 30)).write (.keyFormat .underscored)) :=
    eq_ok_of_toOption (by decide +kernel)
  refine ⟨.built Resolver.build_builtIn, read_limitPackage, section?_limitPackage, read_limitRc,
    apply_limitTwice, apply_limitOnce, _, _, _, hload, hPR, hmerged, ?_, ?_, ?_⟩
  all_goals decide +kernel

end Project

end Phrasebook
