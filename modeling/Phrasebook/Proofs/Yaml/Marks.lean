import Phrasebook.Proofs.Project.Dictionaries

namespace Phrasebook

/-!
# Values that contain themselves

Where a list or dictionary of a YAML text contains itself, a mark says how far out it begins.  No
mark leads out of the value that was read:

* `Value.Closed` — the marks in a value are of the collections that it stands in, or of its own;
* `Yaml.closed_of_inner`, `Yaml.partsClosed_of_valueOf` — a node in a collection becomes a value
  that is closed there, and a collection one whose parts are;
* `Project.closed_of_rc` — so each entry of `.i18nrc` is closed by itself, wherever it is moved.
-/

namespace Value

/-- The marks in a value that stands in `depth` collections are of these, or of collections in the
    value itself.  A tuple is none of them. -/
inductive Closed : Nat → Value → Prop where
  | mark {depth levels : Nat} {isMap : Bool} (h : levels < depth) :
      Closed depth (.enclosing levels isMap)
  | simple {depth : Nat} {v : Value} (h : v.isSimple = true) : Closed depth v
  | list {depth : Nat} {items : List Value} (h : ∀ v ∈ items, Closed (depth + 1) v) :
      Closed depth (.list items)
  | tuple {depth : Nat} {items : List Value} (h : ∀ v ∈ items, Closed depth v) :
      Closed depth (.tuple items)
  | set {depth : Nat} {members : List Value} (h : ∀ v ∈ members, Closed (depth + 1) v) :
      Closed depth (.set members)
  | map {depth : Nat} {entries : Entries} (hkeys : ∀ e ∈ entries, Closed (depth + 1) e.1)
      (hvalues : ∀ e ∈ entries, Closed (depth + 1) e.2) : Closed depth (.map entries)

/-- What stands in a value directly is closed in `depth` collections. -/
def PartsClosed (depth : Nat) : Value → Prop
  | .list items => ∀ v ∈ items, v.Closed depth
  | .set members => ∀ v ∈ members, v.Closed depth
  | .map entries => ∀ e ∈ entries, e.1.Closed depth ∧ e.2.Closed depth
  | v => v.isSimple = true

/-- A value is closed if its parts are, which stand in one collection more. -/
theorem closed_of_parts {depth : Nat} {v : Value} (h : v.PartsClosed (depth + 1)) :
    v.Closed depth := by
  cases v with
  | list items => exact .list h
  | set members => exact .set h
  | map entries => exact .map (fun e he => (h e he).1) fun e he => (h e he).2
  | tuple items => cases h
  | literalMap entries => cases h
  | enclosing levels isMap => cases h
  | _ => exact .simple rfl

/-- A value without parts has closed ones. -/
theorem partsClosed_of_isSimple {depth : Nat} {v : Value} (h : v.isSimple = true) :
    v.PartsClosed depth := by
  cases v with
  | list items => cases h
  | set members => cases h
  | map entries => cases h
  | _ => exact h

end Value

namespace Yaml

/-! ### Outcomes together -/

/-- Two outcomes together give what each gives. -/
theorem both_eq_ok_iff {α β : Type} {x : Built α} {y : Built β} {p : α × β} :
    Built.both x y = .ok p ↔ x = .ok p.1 ∧ y = .ok p.2 := by
  cases x <;> cases y <;> simp [Built.both, Prod.ext_iff]

/-- What several outcomes give together, one of them gives. -/
theorem mem_of_all {α : Type} {outcomes : List (Built α)} {values : List α}
    (h : Built.all outcomes = .ok values) : ∀ a ∈ values, .ok a ∈ outcomes := by
  induction outcomes generalizing values with
  | nil =>
    cases h
    simp
  | cons x rest ih =>
    obtain ⟨p, hboth, rfl⟩ := map_eq_ok_iff.mp h
    obtain ⟨hx, hrest⟩ := both_eq_ok_iff.mp hboth
    intro a ha
    rcases List.mem_cons.mp ha with rfl | ha
    · rw [hx]
      exact List.mem_cons_self
    · exact List.mem_cons_of_mem _ (ih hrest a ha)

/-! ### Nodes -/

section

variable {d : Document} {build : Node → Built Value} {depth : Nat}

/-- The tuple of an item is closed if keys and values are. -/
theorem closed_of_pairOf (hbuild : ∀ n v, build n = .ok v → v.Closed depth) {item : Node} {v : Value}
    (h : pairOf d build item = .ok v) : v.Closed depth := by
  obtain ⟨entry, _, h⟩ := bind_eq_ok_iff.mp h
  obtain ⟨p, hboth, h⟩ := bind_eq_ok_iff.mp h
  obtain ⟨hkey, hvalue⟩ := both_eq_ok_iff.mp hboth
  cases h
  refine .tuple fun v hv => ?_
  rcases List.mem_cons.mp hv with rfl | hv
  · exact hbuild _ _ hkey
  · rw [List.mem_singleton.mp hv]
    exact hbuild _ _ hvalue

/-- Entries are closed if keys and values are. -/
theorem closed_of_entriesOf (hbuild : ∀ n v, build n = .ok v → v.Closed depth) {n : Node}
    {pairs : Pairs} {entries : Entries} (h : entriesOf d build n pairs = .ok entries) :
    ∀ e ∈ entries, e.1.Closed depth ∧ e.2.Closed depth := by
  unfold entriesOf at h
  obtain ⟨flat, _, h⟩ := bind_eq_ok_iff.mp h
  obtain ⟨built, hall, h⟩ := bind_eq_ok_iff.mp h
  cases h
  refine Entries.forall_ofPairs fun e he => ?_
  obtain ⟨p, _, hp⟩ := List.mem_map.mp (mem_of_all hall e he)
  obtain ⟨hkey, hvalue⟩ := both_eq_ok_iff.mp hp
  refine ⟨?_, hbuild _ _ hvalue⟩
  unfold keyOf at hkey
  split at hkey
  · cases hkey
  · exact hbuild _ _ hkey

end

variable {d : Document} {fuel : Nat} {around : List Node}

/-- A node in a collection becomes a value that is closed there, if collections become values with
    closed parts. -/
theorem closed_of_inner
    (ih : ∀ around n v, valueOf d fuel around n = .ok v → v.PartsClosed around.length)
    {child : Node} {v : Value} (h : inner d (valueOf d fuel) around child = .ok v) :
    v.Closed around.length := by
  unfold inner at h
  dsimp only at h
  split at h
  · -- The mark is for one of the collections around.
    rename_i levels hlevel
    cases h
    unfold levelOf? at hlevel
    split at hlevel
    · cases hlevel
    · exact .mark (List.findIdx?_eq_some_iff_getElem.mp hlevel).1
  · exact Value.closed_of_parts (ih _ _ _ h)

/-- The parts of the value of a node are closed in the collections that are being built. -/
theorem partsClosed_of_valueOf {n : Node} {v : Value} (h : valueOf d fuel around n = .ok v) :
    v.PartsClosed around.length := by
  induction fuel generalizing around n v with
  | zero => cases h
  | succ fuel ih =>
    have hinner : ∀ child v, inner d (valueOf d fuel) around child = .ok v →
        v.Closed around.length :=
      fun child v => closed_of_inner fun _ _ _ => ih
    rw [valueOf.eq_def] at h
    dsimp only at h
    split at h
    any_goals cases h
    -- A sequence, a list of pairs, a mapping, a set and whatever else there is.
    case h_4 =>
      obtain ⟨values, hall, hlist⟩ := bind_eq_ok_iff.mp (mapError_eq_ok_iff.mp h)
      cases hlist
      intro v hv
      obtain ⟨child, _, hchild⟩ := List.mem_map.mp (mem_of_all hall v hv)
      exact hinner child v hchild
    case h_5 =>
      obtain ⟨values, hall, hlist⟩ := bind_eq_ok_iff.mp (mapError_eq_ok_iff.mp h)
      cases hlist
      intro v hv
      obtain ⟨item, _, hitem⟩ := List.mem_map.mp (mem_of_all hall v hv)
      exact closed_of_pairOf hinner hitem
    case h_6 =>
      obtain ⟨entries, hentries, hmap⟩ := bind_eq_ok_iff.mp (mapError_eq_ok_iff.mp h)
      cases hmap
      exact closed_of_entriesOf hinner hentries
    case h_7 =>
      obtain ⟨entries, hentries, hset⟩ := bind_eq_ok_iff.mp (mapError_eq_ok_iff.mp h)
      cases hset
      intro v hv
      obtain ⟨e, he, rfl⟩ := List.mem_map.mp hv
      exact (closed_of_entriesOf hinner hentries e he).1
    case h_8 =>
      split at h
      · cases h
      · exact Value.partsClosed_of_isSimple (isSimple_of_scalarOf (eq_ok_of_ofFault h))

/-- The list in `&a {k: [*a]}` contains the dictionary, which contains the list. -/
example {n : Node} (h : n = .mapping .map [(.scalar .str ['k'], .sequence .seq [.enclosing ['a']])]) :
    Document.value ⟨n, [(['a'], n)]⟩ =
      .ok (.map [(.text "k", .list [.map [(.text "k", .enclosing 1 false)]])]) := by
  subst h
  rfl

/-- What stands in a value that is read is closed by itself. -/
theorem partsClosed_of_read {text : List Char} {v : Value} (h : read text = .ok v) :
    v.PartsClosed 0 := by
  unfold read at h
  repeat' split at h
  any_goals cases h
  · exact Value.partsClosed_of_isSimple rfl
  · exact partsClosed_of_valueOf (mapError_eq_ok_iff.mp h)

end Yaml

/-- The entries of `.i18nrc` are closed by themselves. -/
theorem Project.closed_of_rc {content : FileContent} {entries : Entries}
    (h : ConfigFile.rc.read content = .ok (.map entries)) :
    ∀ e ∈ entries, e.1.Closed 0 ∧ e.2.Closed 0 := by
  obtain ⟨_, htext⟩ := exists_read_of_rc h
  exact Yaml.partsClosed_of_read htext

end Phrasebook
