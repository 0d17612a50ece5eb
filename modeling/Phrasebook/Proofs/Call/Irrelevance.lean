import Phrasebook.Proofs.Call.Expansion
import Phrasebook.Proofs.Call.Literals

namespace Phrasebook

/-!
# Options that a call does not depend on

The bag of a call is asked for its count, for a default, for the names of variants and for a value of
each placeholder.  Any other entry may be added to it or changed:

* `Entries.AgreeBut` — bags that differ under one name at most, which the second has if the first
  does; `AgreeBut.insert`, `AgreeBut.change` — one entry more, or another value of an entry;
* `Signature.resolve_withBag` — another bag, or one where there was none, leaves key and default as
  they are read;
* `Default.ofArgument_of_more` — a default that is accepted is accepted with more names in the bag;
* `Call.ofArguments_withBag` — so the call is the same but for its bag;
* `Call.OptionChange`, `Call.unchanged_by_other_option` — the ways in which one option of a call is
  another, and what they leave as it is.
-/

/-! ### Bags that differ under one name -/

namespace Entries

/-- Two bags that differ under one name at most, which the second has if the first does. -/
structure AgreeBut (n : Value) (o o' : Entries) : Prop where
  get?_eq : ∀ s, n ≠ .text s → o'.get? (.text s) = o.get? (.text s)
  mem_iff : ∀ s, n ≠ .text s → ∀ v, (Value.text s, v) ∈ o' ↔ (Value.text s, v) ∈ o
  kept : ∀ v, (n, v) ∈ o → ∃ w, (n, w) ∈ o'

variable {n : Value} {o o' : Entries}

/-- An entry under another name hides nothing under a text. -/
theorem get?_text_append_cons {s : String} (hn : n ≠ .text s) (v : Value) (o₁ o₂ : Entries) :
    (o₁ ++ (n, v) :: o₂ : Entries).get? (.text s) = (o₁ ++ o₂ : Entries).get? (.text s) := by
  induction o₁ with
  | nil =>
    show (if n.sameKey (.text s) then some v else o₂.get? (.text s)) = _
    rw [Value.sameKey_text_eq_false_iff.mpr hn]
    rfl
  | cons e rest ih =>
    obtain ⟨k, w⟩ := e
    rw [List.cons_append, List.cons_append, get?, get?, ih]

/-- It is no entry under a text. -/
theorem mem_text_append_cons {s : String} (hn : n ≠ .text s) (v w : Value) (o₁ o₂ : Entries) :
    (Value.text s, w) ∈ o₁ ++ (n, v) :: o₂ ↔ (Value.text s, w) ∈ o₁ ++ o₂ := by
  simp [hn.symm]

/-- One entry more, anywhere. -/
theorem AgreeBut.insert (n v : Value) (o₁ o₂ : Entries) :
    AgreeBut n (o₁ ++ o₂) (o₁ ++ (n, v) :: o₂) :=
  ⟨fun _ hn => get?_text_append_cons hn v o₁ o₂, fun _ hn w => mem_text_append_cons hn v w o₁ o₂,
    fun _ _ => ⟨v, by simp⟩⟩

/-- Another value of an entry. -/
theorem AgreeBut.change (n v w : Value) (o₁ o₂ : Entries) :
    AgreeBut n (o₁ ++ (n, v) :: o₂) (o₁ ++ (n, w) :: o₂) := by
  refine ⟨fun s hn => ?_, fun s hn u => ?_, fun _ _ => ⟨w, by simp⟩⟩
  · rw [get?_text_append_cons hn, get?_text_append_cons hn]
  · rw [mem_text_append_cons hn, mem_text_append_cons hn]

/-- Each text that has a value in the first bag has one in the second. -/
theorem AgreeBut.contains_of_contains (h : AgreeBut n o o') {s : String}
    (hs : o.contains (.text s) = true) : o'.contains (.text s) = true := by
  rw [contains_text_iff] at hs ⊢
  obtain ⟨v, hv⟩ := hs
  by_cases hn : n = .text s
  · exact hn ▸ h.kept v (hn ▸ hv)
  · exact ⟨v, (h.mem_iff s hn v).mpr hv⟩

/-- A text other than the name has a value in both or in neither. -/
theorem AgreeBut.contains_eq (h : AgreeBut n o o') {s : String} (hn : n ≠ .text s) :
    o'.contains (.text s) = o.contains (.text s) := by
  rw [Bool.eq_iff_iff, contains_text_iff, contains_text_iff]
  exact exists_congr (h.mem_iff s hn)

/-- Unless the name is that of a variant, both name variants or neither does. -/
theorem AgreeBut.namesVariant_iff (h : AgreeBut n o o') {variants : List String}
    (hn : ∀ name ∈ variants, n ≠ .text name) :
    Signature.NamesVariant variants o' ↔ Signature.NamesVariant variants o :=
  exists_congr fun name => and_congr_right fun hname => exists_congr (h.mem_iff name (hn name hname))

/-- Removing marks keeps the names. -/
theorem contains_toDict (key : Value) (o : Entries) :
    (Argument.toDict o).contains key = o.contains key := by
  induction o with
  | nil => rfl
  | cons e rest ih => exact congrArg (e.1.sameKey key || ·) ih

end Entries

/-! ### Signatures with another bag -/

namespace Signature

variable {variants : List String} {line : Option Int} {args : List Argument} {sig : Signature}

/-- The arguments that a bag takes up. -/
def bagArguments (options : Option Entries) : List Argument := (options.map Argument.map).toList

/-- Arguments that are read are one or two and the bag, which names no variant. -/
theorem parts_of_resolve (h : resolve variants line args = .ok sig) :
    ∃ positional, args = positional ++ bagArguments sig.options ∧ positional.length ≤ 2 ∧
      splitKey line sig.options positional = .ok (sig.key, sig.default) ∧
      ∀ o, sig.options = some o → ¬ NamesVariant variants o := by
  unfold resolve at h
  repeat' split at h
  all_goals cases h
  rename_i positional options hsplit _ key default hkey _ _
  refine ⟨positional, ?_, ?_, hkey, ?_⟩
  · rcases args_of_splitOptions hsplit with ⟨o, _, rfl, rfl⟩ | ⟨rfl, rfl⟩
    · rfl
    · exact (List.append_nil _).symm
  · rcases positional_of_splitKey hkey with ⟨k, d, rfl, _⟩ | ⟨rfl, _⟩ | ⟨k, rfl, _⟩ <;> simp
  · rintro o rfl
    rcases args_of_splitOptions hsplit with ⟨o', ho', _, heq⟩ | ⟨_, heq⟩
    · cases heq
      exact ho'
    · cases heq

/-- No bag gives the default that an empty bag gives, namely none. -/
theorem legacyText?_getD (options : Option Entries) :
    legacyText? (some (options.getD [])) = legacyText? options := by
  cases options <;> rfl

/-- The key depends on the bag only through the default that it gives. -/
theorem splitKey_congr {options options' : Option Entries}
    (h : legacyText? options' = legacyText? options) (positional : List Argument) :
    splitKey line options' positional = splitKey line options positional := by
  unfold splitKey
  rw [h]

/-- Under a bag that differs under a name of no variant and not under that of the default, or under
    one with that name alone where there was none, key and default are the same. -/
theorem resolve_withBag {positional : List Argument} {n : Value} {o' : Entries}
    (h : resolve variants line (positional ++ bagArguments sig.options) = .ok sig)
    (hvariant : ∀ name ∈ variants, n ≠ .text name) (hdefault : n ≠ .text legacyDefault)
    (hagree : Entries.AgreeBut n (sig.options.getD []) o') :
    resolve variants line (positional ++ [.map o']) = .ok { sig with options := some o' } := by
  obtain ⟨positional', hargs, hshort, hkey, hplain⟩ := parts_of_resolve h
  obtain rfl : positional = positional' := List.append_cancel_right hargs
  refine resolve_bag positional hshort ?_ ?_ (check_of_resolve h)
  · rw [hagree.namesVariant_iff hvariant]
    cases hbag : sig.options with
    | none => simp [NamesVariant]
    | some o => exact hplain o hbag
  · rw [← hkey]
    refine splitKey_congr ?_ positional
    rw [← legacyText?_getD sig.options]
    unfold legacyText?
    rw [Option.bind_some, Option.bind_some, hagree.get?_eq _ hdefault]

/-- A last argument that is no object literal without variants is no bag. -/
theorem options_eq_none_of_resolve (h : resolve variants line args = .ok sig)
    (hlast : ∀ o, args.getLast? = some (.map o) → NamesVariant variants o) :
    sig.options = none := by
  obtain ⟨positional, hargs, _, _, hplain⟩ := parts_of_resolve h
  cases hbag : sig.options with
  | none => rfl
  | some o =>
    rw [hbag] at hargs
    exact absurd (hlast o (by simp [hargs, bagArguments])) (hplain o hbag)

end Signature

/-! ### Defaults and calls with another bag -/

/-- A default that is accepted is accepted with more names in the bag. -/
theorem Default.ofArgument_of_more {line : Option Int} {values : OptionValues}
    {key : Option String} {options options' : Entries} {arg : Argument} {default : Default}
    (hmore : ∀ s, options.contains (.text s) = true → options'.contains (.text s) = true)
    (h : Default.ofArgument line values key options arg = .ok default) :
    Default.ofArgument line values key options' arg = .ok default := by
  have hsupplied : ∀ {texts}, Supplied values.interpolationSyntax options texts →
      Supplied values.interpolationSyntax options' texts := by
    intro texts h text htext p hp
    obtain ⟨name, hname, hthere⟩ := h text htext p hp
    exact ⟨name, hname, hmore name hthere⟩
  rw [Default.ofArgument_eq_ok_iff] at h ⊢
  rcases h with ⟨s, harg, hs, hplaceholders⟩ |
    ⟨texts, harg, htexts, hnames, hprimary, hplaceholders, hcount⟩
  · exact .inl ⟨s, harg, hs, hsupplied hplaceholders⟩
  · exact .inr ⟨texts, harg, htexts, hnames, hprimary, hsupplied hplaceholders, hmore _ hcount⟩

/-- Only the count decides whether a default is expanded. -/
theorem Default.expand_congr {options options' : Entries}
    (h : options'.contains (.text countOption) = options.contains (.text countOption))
    (default : Default) : default.expand options' = default.expand options := by
  cases default with
  | text s => simp only [Default.expand, h]
  | variants entries => rfl

namespace Call

variable {values : OptionValues} {method : String} {line : Option Int} {c : Call} {n : Value}

/-- A call whose bag differs under one name that it is not asked for, or that gets a bag with that
    name, is the same but for its bag. -/
theorem ofArguments_withBag {positional : List Argument} {options : Option Entries} {o' : Entries}
    (hbag : ∀ sig, Signature.resolve values.pluralizationKeys line
      (positional ++ Signature.bagArguments options) = .ok sig → sig.options = options)
    (constructed : Call.ofArguments values method line
      (positional ++ Signature.bagArguments options) = .ok c)
    (hvariant : ∀ name ∈ values.pluralizationKeys, n ≠ .text name)
    (hcount : n ≠ .text countOption) (hdefault : n ≠ .text legacyDefault)
    (hagree : Entries.AgreeBut n (options.getD []) o') :
    Call.ofArguments values method line (positional ++ [.map o']) =
      .ok { c with options := Argument.toDict o' } := by
  obtain ⟨sig, default, hresolve, haccepted, rfl⟩ := ofArguments_eq_ok_iff.mp constructed
  obtain rfl := hbag sig hresolve
  refine ofArguments_eq_ok_iff.mpr
    ⟨_, default, Signature.resolve_withBag hresolve hvariant hdefault hagree, ?_, ?_⟩
  · refine Default.ofArgument_of_more (fun s hs => ?_) haccepted
    rw [Entries.contains_toDict] at hs ⊢
    exact hagree.contains_of_contains hs
  · have hsame : (Argument.toDict o').contains (.text countOption) =
        (Argument.toDict (sig.options.getD [])).contains (.text countOption) := by
      rw [Entries.contains_toDict, Entries.contains_toDict, hagree.contains_eq hcount]
    rw [← Default.expand_congr hsame]
    rfl

/-! ### One option changed -/

/-- Arguments before and after one option is added or changed: an entry anywhere in the bag, a bag
    with the entry where there was none, or another value of an entry.  The bag is a last argument
    that is an object literal without variants. -/
inductive OptionChange (variants : List String) (n : Value) :
    List Argument → List Argument → Prop where
  | entry {before : List Argument} {o₁ o₂ : Entries} (v : Value)
      (plain : ¬ Signature.NamesVariant variants (o₁ ++ o₂)) :
      OptionChange variants n (before ++ [.map (o₁ ++ o₂)]) (before ++ [.map (o₁ ++ (n, v) :: o₂)])
  | bag {args : List Argument} (v : Value)
      (none : ∀ o, args.getLast? = some (.map o) → Signature.NamesVariant variants o) :
      OptionChange variants n args (args ++ [.map [(n, v)]])
  | value {before : List Argument} {o₁ o₂ : Entries} {v : Value} (w : Value)
      (plain : ¬ Signature.NamesVariant variants (o₁ ++ (n, v) :: o₂)) :
      OptionChange variants n (before ++ [.map (o₁ ++ (n, v) :: o₂)])
        (before ++ [.map (o₁ ++ (n, w) :: o₂)])

/-- Before and after a change the arguments have bags that differ under the name. -/
theorem OptionChange.exists_bags {args args' : List Argument}
    (h : OptionChange values.pluralizationKeys n args args') :
    ∃ positional options o', args = positional ++ Signature.bagArguments options ∧
      args' = positional ++ [.map o'] ∧ Entries.AgreeBut n (options.getD []) o' ∧
      ∀ sig, Signature.resolve values.pluralizationKeys line args = .ok sig →
        sig.options = options := by
  cases h with
  | @entry before o₁ o₂ v plain =>
    exact ⟨before, some (o₁ ++ o₂), _, rfl, rfl, .insert n v o₁ o₂,
      fun _ => Signature.options_of_resolve plain⟩
  | bag v none =>
    exact ⟨args, Option.none, _, (List.append_nil _).symm, rfl, .insert n v [] [],
      fun _ hsig => Signature.options_eq_none_of_resolve hsig none⟩
  | @value before o₁ o₂ v w plain =>
    exact ⟨before, some (o₁ ++ (n, v) :: o₂), _, rfl, rfl, .change n v w o₁ o₂,
      fun _ => Signature.options_of_resolve plain⟩

/-- **A call does not depend on its other options.**  Take an option that is neither a variant in
    force nor `count` nor `defaultValue`.  If a call is constructed, it is constructed as well after
    that option has been added to its bag, anywhere in it and with any value, or in a bag of its own
    if there was none, or after its value has been changed.  Nothing but the bag of the call is then
    another, so it has the same key, the same default, as plural as before, and under any option
    values the same translations or the same error. -/
theorem unchanged_by_other_option {args args' : List Argument}
    (constructed : Call.ofArguments values method line args = .ok c)
    (hvariant : ∀ name ∈ values.pluralizationKeys, n ≠ .text name)
    (hcount : n ≠ .text "count") (hdefault : n ≠ .text "defaultValue")
    (hchange : OptionChange values.pluralizationKeys n args args') :
    ∃ c', Call.ofArguments values method line args' = .ok c' ∧
      c' = { c with options := c'.options } ∧ c'.key = c.key ∧ c'.default = c.default ∧
      c'.default.isPluralized = c.default.isPluralized ∧
      ∀ values', c'.translations values' = c.translations values' := by
  obtain ⟨positional, options, o', rfl, rfl, hagree, hbag⟩ := hchange.exists_bags
  have hconstructed := ofArguments_withBag hbag constructed hvariant hcount hdefault hagree
  exact ⟨_, hconstructed, rfl, rfl, rfl, rfl, fun _ => rfl⟩

/-- A bag with a colour before the count. -/
def colouredBag : Entries := (.text "colour", .literal "red") :: countBag

/-- A person with a colour becomes people as one without does. -/
theorem unchanged_by_other_option_colour :
    ∃ c, Call.ofArguments wordValues "t" none [.text "k", .text "person", .map countBag] = .ok c ∧
      (∀ name ∈ wordValues.pluralizationKeys, Value.text "colour" ≠ .text name) ∧
      Value.text "colour" ≠ .text "count" ∧ Value.text "colour" ≠ .text "defaultValue" ∧
      OptionChange wordValues.pluralizationKeys (.text "colour")
        [.text "k", .text "person", .map countBag] [.text "k", .text "person", .map colouredBag] ∧
      ∃ c', Call.ofArguments wordValues "t" none
          [.text "k", .text "person", .map colouredBag] = .ok c' ∧
        c'.default = .variants [("one", "1 person"), ("other", "%\x7bcount\x7d people")] ∧
        ∀ values', c'.translations values' = c.translations values' := by
  obtain ⟨hplaceholders, hplural, _⟩ := person_inflected
  have hconstructed := constructed_counted (hplaceholders "person" (by simp))
  have hvariant : ∀ name ∈ wordValues.pluralizationKeys, Value.text "colour" ≠ .text name := by
    simp [wordValues, essentialVariants]
  have hplain : ¬ Signature.NamesVariant wordValues.pluralizationKeys ([] ++ countBag) := by
    rw [← Signature.isPluralMap_iff]
    decide
  have hchange : OptionChange wordValues.pluralizationKeys (.text "colour")
      [.text "k", .text "person", .map countBag] [.text "k", .text "person", .map colouredBag] :=
    @OptionChange.entry _ _ [.text "k", .text "person"] [] countBag (.literal "red") hplain
  obtain ⟨c', hc', _, _, hdefault, _, htranslations⟩ :=
    unchanged_by_other_option hconstructed hvariant (by simp) (by simp) hchange
  have hexpanded : (Default.text "person").expand countBag = .variants (wordVariants "person") :=
    Default.expand_eq_variants_iff.mpr (.inr ⟨_, rfl, by decide, by decide, rfl⟩)
  rw [wordVariants, hplural] at hexpanded
  exact ⟨_, hconstructed, hvariant, by simp, by simp, hchange, c', hc', hdefault.trans hexpanded,
    htranslations⟩

end Call

end Phrasebook
