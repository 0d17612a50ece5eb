import Phrasebook.Proofs.Yaml.Lexing
import Phrasebook.Yaml.Arrival

namespace Phrasebook.Yaml

/-!
# The tree of a text in JSON

The tokens of a form are read as the tree that one expects, and its value is that of the form.

* `nodeOf` — the tree of a form;
* `Reader.reads_nodeOf` — it is what its tokens are read as;
* `valueOf_nodeOf` — and it is worth the same;
* `read_written` — so a text in JSON is read with its meaning.
-/

open Json (Piece Numeral Name Form Items Members)

mutual

/-- The tree of a form. -/
def nodeOf : Form → Node
  | .word i => .scalar (.ofPlain (Json.words.get i).1) (Json.words.get i).1
  | .number n => .scalar (.ofPlain n.written) n.written
  | .text pieces => .scalar .str (pieces.map Piece.meaning)
  | .emptyArray _ => .sequence .seq []
  | .array items => .sequence .seq (nodesOf items)
  | .emptyObject _ => .mapping .map []
  | .object members => .mapping .map (entryNodesOf members)
termination_by structural f => f

/-- The trees of items. -/
def nodesOf : Items → List Node
  | .last _ f _ => [nodeOf f]
  | .cons _ f _ rest => nodeOf f :: nodesOf rest
termination_by structural items => items

/-- The trees of entries. -/
def entryNodesOf : Members → List (Node × Node)
  | .last name _ f _ => [(.scalar .str (name.pieces.map Piece.meaning), nodeOf f)]
  | .cons name _ f _ rest =>
    (.scalar .str (name.pieces.map Piece.meaning), nodeOf f) :: entryNodesOf rest
termination_by structural members => members

end

/-! ### Reading -/

namespace Reader

/-- Without properties none are read. -/
theorem reads_readProperties {t : Token} (ts : List Token) (hanchor : ∀ name, t ≠ .anchor name)
    (htag : ∀ handle rest, t ≠ .tag handle rest) :
    Reads readProperties (t :: ts) (none, none) (t :: ts) := by
  have hreadAnchor : Reads readAnchor (t :: ts) none (t :: ts) := by
    refine (reads_peek t ts).bind ?_
    split
    · rename_i name
      exact absurd rfl (hanchor name)
    · exact reads_pure _ _
  have hreadTag : Reads readTag (t :: ts) none (t :: ts) := by
    refine (reads_peek t ts).bind ?_
    split
    · rename_i handle rest
      exact absurd rfl (htag handle rest)
    · exact reads_pure _ _
  exact hreadAnchor.bind (hreadTag.bind ((reads_pure _ _).bind (reads_pure _ _)))

/-- A scalar without properties. -/
theorem reads_scalar (block flush : Bool) (fuel : Nat) (text : List Char) (plain : Bool)
    (ts : List Token) :
    Reads (readNode block flush (fuel + 1)) (.scalar text plain :: ts)
      (.scalar (if plain then .ofPlain text else .str) text) ts := by
  rw [readNode]
  refine (reads_peek _ ts).bind ?_
  refine (reads_readProperties (t := .scalar text plain) ts nofun nofun).bind ?_
  refine (reads_peek _ ts).bind ?_
  refine (reads_skip _ ts).bind ?_
  exact (reads_pure () ts).bind (reads_pure _ ts)

/-- A sequence without properties, if its items are read. -/
theorem reads_sequence (block flush : Bool) {fuel : Nat} {ts us : List Token} {items : List Node}
    (h : Reads (readFlowItems true fuel) ts items us) :
    Reads (readNode block flush (fuel + 1)) (.flowSequence :: ts) (.sequence .seq items) us := by
  rw [readNode]
  refine (reads_peek _ ts).bind ?_
  refine (reads_readProperties (t := .flowSequence) ts nofun nofun).bind ?_
  refine (reads_peek _ ts).bind ?_
  refine (reads_pure () _).bind ?_
  refine (reads_skip _ ts).bind ?_
  exact h.bind (reads_pure _ us)

/-- A mapping without properties, if its entries are read. -/
theorem reads_mapping (block flush : Bool) {fuel : Nat} {ts us : List Token}
    {entries : List (Node × Node)} (h : Reads (readFlowEntries true fuel) ts entries us) :
    Reads (readNode block flush (fuel + 1)) (.flowMapping :: ts) (.mapping .map entries) us := by
  rw [readNode]
  refine (reads_peek _ ts).bind ?_
  refine (reads_readProperties (t := .flowMapping) ts nofun nofun).bind ?_
  refine (reads_peek _ ts).bind ?_
  refine (reads_pure () _).bind ?_
  refine (reads_skip _ ts).bind ?_
  exact h.bind (reads_pure _ us)

/-- The tokens that nodes of JSON start with. -/
def startsNode : Token → Bool
  | .scalar _ _ | .flowSequence | .flowMapping => true
  | _ => false

/-- The comma before all entries of a collection but the first one. -/
def comma (first : Bool) : List Token := if first then [] else [.flowEntry]

/-- The end of a sequence. -/
theorem reads_itemsEnd (first : Bool) (fuel : Nat) (ts : List Token) :
    Reads (readFlowItems first (fuel + 1)) (.flowSequenceEnd :: ts) [] ts := by
  rw [readFlowItems]
  refine (reads_peek _ ts).bind ?_
  exact (reads_skip _ ts).bind (reads_pure _ ts)

/-- The end of a mapping. -/
theorem reads_entriesEnd (first : Bool) (fuel : Nat) (ts : List Token) :
    Reads (readFlowEntries first (fuel + 1)) (.flowMappingEnd :: ts) [] ts := by
  rw [readFlowEntries]
  refine (reads_peek _ ts).bind ?_
  exact (reads_skip _ ts).bind (reads_pure _ ts)

/-- Tokens that a node may start with. -/
def StartsNode (tokens : List Token) : Prop :=
  ∃ t us, tokens = t :: us ∧ startsNode t = true

/-- An item of a sequence and those after it. -/
theorem reads_item (first : Bool) {fuel : Nat} {tokens vs ws : List Token} {n : Node}
    {ns : List Node} (hstart : StartsNode tokens)
    (hn : Reads (readNode false false fuel) (tokens ++ vs) n vs)
    (hns : Reads (readFlowItems false fuel) vs ns ws) :
    Reads (readFlowItems first (fuel + 1)) (comma first ++ (tokens ++ vs)) (n :: ns) ws := by
  obtain ⟨t, us, rfl, ht⟩ := hstart
  have hitem : Reads (readNode false false fuel >>= fun n =>
      readFlowItems false fuel >>= fun more => pure (n :: more)) (t :: us ++ vs) (n :: ns) ws :=
    hn.bind (hns.bind (reads_pure _ ws))
  rw [readFlowItems]
  cases first
  case' true => refine (reads_peek t _).bind ?_
  case' false =>
    refine (reads_peek .flowEntry _).bind ?_
    refine (reads_peek .flowEntry _).bind ?_
    refine (reads_skip .flowEntry _).bind ?_
  all_goals
    cases t with
    | scalar _ _ | flowSequence | flowMapping => exact (reads_peek _ _).bind hitem
    | _ => cases ht

/-- The value of an entry. -/
theorem reads_value {fuel : Nat} {tokens vs : List Token} {n : Node} (hstart : StartsNode tokens)
    (hn : Reads (readNode false false fuel) (tokens ++ vs) n vs) :
    Reads (readFlowValue .flowMappingEnd (fuel + 1)) (.value :: (tokens ++ vs)) n vs := by
  obtain ⟨t, us, rfl, ht⟩ := hstart
  rw [readFlowValue]
  refine (reads_peek .value _).bind ?_
  refine (reads_skip .value _).bind ?_
  refine (reads_peek t _).bind ?_
  cases t with
  | scalar _ _ | flowSequence | flowMapping => exact hn
  | _ => cases ht

/-- An entry of a mapping and those after it. -/
theorem reads_entry (first : Bool) {fuel : Nat} {name : List Char} {tokens vs ws : List Token}
    {n : Node} {more : List (Node × Node)} (hstart : StartsNode tokens)
    (hn : Reads (readNode false false fuel) (tokens ++ vs) n vs)
    (hmore : Reads (readFlowEntries false (fuel + 1)) vs more ws) :
    Reads (readFlowEntries first (fuel + 2))
      (comma first ++ .key :: .scalar name false :: .value :: (tokens ++ vs))
      ((.scalar .str name, n) :: more) ws := by
  have hentry : Reads (readNode false false (fuel + 1) >>= fun k =>
      readFlowValue .flowMappingEnd (fuel + 1) >>= fun v =>
      readFlowEntries false (fuel + 1) >>= fun more => pure ((k, v) :: more))
      (.scalar name false :: .value :: (tokens ++ vs)) ((.scalar .str name, n) :: more) ws :=
    (reads_scalar false false fuel name false _).bind <|
      (reads_value hstart hn).bind (hmore.bind (reads_pure _ ws))
  rw [readFlowEntries]
  cases first
  case' true => refine (reads_peek .key _).bind ?_
  case' false =>
    refine (reads_peek .flowEntry _).bind ?_
    refine (reads_peek .flowEntry _).bind ?_
    refine (reads_skip .flowEntry _).bind ?_
  all_goals
    refine (reads_peek .key _).bind ?_
    refine (reads_skip .key _).bind ?_
    exact (reads_peek (.scalar name false) _).bind hentry

/-- A node may start with the tokens of a form. -/
theorem startsNode_tokensOf (f : Form) : StartsNode (tokensOf f) := by
  cases f <;> exact ⟨_, _, rfl, rfl⟩

mutual

/-- **The tokens of a form are read as its tree.** -/
theorem reads_nodeOf (block flush : Bool) : (f : Form) → (fuel : Nat) → (ts : List Token) →
    (tokensOf f).length ≤ fuel → Reads (readNode block flush fuel) (tokensOf f ++ ts) (nodeOf f) ts
  | .word _, _ + 1, ts, _ => reads_scalar block flush _ _ true ts
  | .number _, _ + 1, ts, _ => reads_scalar block flush _ _ true ts
  | .text _, _ + 1, ts, _ => reads_scalar block flush _ _ false ts
  | .emptyArray _, _ + 2, ts, _ => reads_sequence block flush (reads_itemsEnd true _ ts)
  | .emptyObject _, _ + 2, ts, _ => reads_mapping block flush (reads_entriesEnd true _ ts)
  | .array items, fuel + 1, ts, hfuel => by
    have hitems := reads_nodesOf items true fuel ts (by
      rw [tokensOf, List.length_cons, List.length_append, List.length_singleton] at hfuel
      omega)
    rw [tokensOf, List.cons_append, List.append_assoc]
    exact reads_sequence block flush hitems
  | .object members, fuel + 1, ts, hfuel => by
    have hmembers := reads_entryNodesOf members true fuel ts (by
      rw [tokensOf, List.length_cons, List.length_append, List.length_singleton] at hfuel
      omega)
    rw [tokensOf, List.cons_append, List.append_assoc]
    exact reads_mapping block flush hmembers

/-- So are those of items. -/
theorem reads_nodesOf : (items : Items) → (first : Bool) → (fuel : Nat) → (ts : List Token) →
    (tokensOfItems items).length < fuel →
    Reads (readFlowItems first fuel)
      (comma first ++ (tokensOfItems items ++ .flowSequenceEnd :: ts)) (nodesOf items) ts
  | .last _ f _, first, fuel + 1, ts, hfuel => by
    have hnode := reads_nodeOf false false f fuel (.flowSequenceEnd :: ts) (Nat.le_of_lt_succ hfuel)
    obtain ⟨t, us, htokens, -⟩ := startsNode_tokensOf f
    rw [tokensOfItems, htokens, List.length_cons] at hfuel
    obtain ⟨fuel, rfl⟩ : ∃ k, fuel = k + 1 := ⟨fuel - 1, by omega⟩
    exact reads_item first (startsNode_tokensOf f) hnode (reads_itemsEnd false fuel ts)
  | .cons _ f _ rest, first, fuel + 1, ts, hfuel => by
    rw [tokensOfItems, List.length_append, List.length_cons] at hfuel
    have hnode := reads_nodeOf false false f fuel
      (.flowEntry :: (tokensOfItems rest ++ .flowSequenceEnd :: ts)) (by omega)
    have hrest := reads_nodesOf rest false fuel ts (by omega)
    rw [tokensOfItems, List.append_assoc, List.cons_append]
    exact reads_item first (startsNode_tokensOf f) hnode hrest

/-- So are those of entries. -/
theorem reads_entryNodesOf : (members : Members) → (first : Bool) → (fuel : Nat) →
    (ts : List Token) → (tokensOfMembers members).length < fuel →
    Reads (readFlowEntries first fuel)
      (comma first ++ (tokensOfMembers members ++ .flowMappingEnd :: ts)) (entryNodesOf members) ts
  | .last name _ f _, first, fuel + 2, ts, hfuel => by
    rw [tokensOfMembers, List.length_cons, List.length_cons, List.length_cons] at hfuel
    exact reads_entry first (startsNode_tokensOf f)
      (reads_nodeOf false false f fuel (.flowMappingEnd :: ts) (by omega))
      (reads_entriesEnd false fuel ts)
  | .cons name _ f _ rest, first, fuel + 2, ts, hfuel => by
    rw [tokensOfMembers, List.length_cons, List.length_cons, List.length_cons, List.length_append,
      List.length_cons] at hfuel
    have hnode := reads_nodeOf false false f fuel
      (.flowEntry :: (tokensOfMembers rest ++ .flowMappingEnd :: ts)) (by omega)
    have hrest := reads_entryNodesOf rest false (fuel + 1) ts (by omega)
    rw [tokensOfMembers, List.cons_append, List.cons_append, List.cons_append, List.append_assoc,
      List.cons_append]
    exact reads_entry first (startsNode_tokensOf f) hnode hrest

end

/-- The only document of a text is read to its end. -/
theorem reads_root {f : Form} {fuel : Nat} (hfuel : (tokensOf f).length ≤ fuel) :
    Reads (readRoot fuel) (tokensOf f ++ [.textEnd]) (some (nodeOf f)) [.textEnd] := by
  have hnode := reads_nodeOf true false f fuel [.textEnd] hfuel
  obtain ⟨t, us, htokens, ht⟩ := startsNode_tokensOf f
  rw [htokens] at hfuel
  obtain ⟨fuel, rfl⟩ : ∃ k, fuel = k + 1 := ⟨fuel - 1, by rw [List.length_cons] at hfuel; omega⟩
  have hends : Reads (readDocumentEnds (fuel + 1)) [.textEnd] () [.textEnd] := by
    rw [readDocumentEnds]
    exact (reads_peek _ []).bind (reads_pure _ _)
  have hcontent : Reads ((modify fun r => { r with handles := standardHandles }) >>= fun _ =>
      readNode true false (fuel + 1) >>= fun n =>
      readDocumentEnds (fuel + 1) >>= fun _ => pure (some n))
      (tokensOf f ++ [.textEnd]) (some (nodeOf f)) [.textEnd] :=
    (reads_setHandles standardHandles _).bind (hnode.bind (hends.bind (reads_pure _ _)))
  rw [htokens] at hcontent ⊢
  unfold readRoot
  refine (reads_peek t _).bind ?_
  cases t with
  | scalar _ _ | flowSequence | flowMapping => exact hcontent
  | _ => cases ht

end Reader

/-! ### Values -/

/-- A type of scalars in JSON. -/
def isPlainTag : Tag → Bool
  | .null | .bool | .int | .float | .str => true
  | _ => false

section Values

variable {d : Document} {fuel : Nat} {around : List Node}

/-- A scalar of such a type is worth what its text is. -/
theorem valueOf_scalar {tag : Tag} (h : isPlainTag tag = true) (text : List Char) :
    valueOf d (fuel + 1) around (.scalar tag text) = Built.ofFault (scalarValue tag text) := by
  cases tag with
  | null | bool | int | float | str => rfl
  | _ => cases h

/-- Without names for nodes none stands in itself. -/
theorem inner_of_noAnchors (hd : d.anchors = []) (build : List Node → Node → Built Value)
    (n : Node) : inner d build around n = build (d.target n :: around) (d.target n) := by
  unfold inner levelOf?
  rw [hd]
  rfl

/-- Keys that are texts are no keys of merged entries. -/
theorem merges_of_str {pairs : Pairs} (h : ∀ e ∈ pairs, ∃ text, e.1 = .scalar .str text)
    (before : Pairs) : merges d before pairs = [] := by
  induction pairs generalizing before with
  | nil => rfl
  | cons e rest ih =>
    obtain ⟨⟨text, htext⟩, hrest⟩ := List.forall_mem_cons.mp h
    obtain ⟨k, v⟩ := e
    cases htext
    exact ih hrest _

/-- Nor do they change. -/
theorem ownPairs_of_str {pairs : Pairs} (h : ∀ e ∈ pairs, ∃ text, e.1 = .scalar .str text) :
    ownPairs d pairs = pairs := by
  induction pairs with
  | nil => rfl
  | cons e rest ih =>
    obtain ⟨⟨text, htext⟩, hrest⟩ := List.forall_mem_cons.mp h
    obtain ⟨k, v⟩ := e
    cases htext
    exact congrArg ((.scalar .str text, v) :: ·) (ih hrest)

/-- So such mappings have nothing merged into them. -/
theorem flatten_of_str {pairs : Pairs} (h : ∀ e ∈ pairs, ∃ text, e.1 = .scalar .str text)
    (opened : List Opened) (n : Node) : flatten d (fuel + 1) opened n pairs = .ok pairs := by
  unfold flatten
  rw [merges_of_str h, ownPairs_of_str h]
  rfl

/-- A sequence is worth the list of what its items are. -/
theorem valueOf_sequence {items : List Node} {values : List Value}
    (h : Built.all (items.map (inner d (valueOf d fuel) around)) = .ok values) :
    valueOf d (fuel + 1) around (.sequence .seq items) = .ok (.list values) := by
  show Built.inside (Built.all (items.map (inner d (valueOf d fuel) around)) >>= fun vs =>
    pure (Value.list vs)) = _
  rw [h]
  rfl

/-- The value of an entry with its key. -/
def valuesOfEntry (d : Document) (fuel : Nat) (around : List Node) (e : Node × Node) :
    Built (Value × Value) :=
  Built.both (keyOf d (inner d (valueOf d fuel) around) e.1)
    (inner d (valueOf d fuel) around e.2)

/-- The entries of a mapping are worth what their keys and values are. -/
theorem entriesOf_eq {pairs : Pairs} {values : List (Value × Value)}
    (hkeys : ∀ e ∈ pairs, ∃ text, e.1 = .scalar .str text)
    (h : Built.all (pairs.map (valuesOfEntry d fuel around)) = .ok values) (n : Node) :
    entriesOf d (inner d (valueOf d fuel) around) n pairs = .ok (Entries.ofPairs values) := by
  unfold entriesOf
  rw [flatten_of_str hkeys]
  show (Built.all (pairs.map (valuesOfEntry d fuel around)) >>= fun built =>
    pure (Entries.ofPairs built)) = _
  rw [h]
  rfl

/-- A mapping is worth the dictionary of those. -/
theorem valueOf_mapping {pairs : Pairs} {values : List (Value × Value)}
    (hkeys : ∀ e ∈ pairs, ∃ text, e.1 = .scalar .str text)
    (h : Built.all (pairs.map (valuesOfEntry d fuel around)) = .ok values) :
    valueOf d (fuel + 1) around (.mapping .map pairs) = .ok (.map (Entries.ofPairs values)) := by
  show Built.inside (entriesOf d (inner d (valueOf d fuel) around) (.mapping .map pairs) pairs >>=
    fun es => pure (Value.map es)) = _
  rw [entriesOf_eq hkeys h]
  rfl

/-- Outcomes one after the other. -/
theorem all_cons {α : Type} {x : Built α} {rest : List (Built α)} {a : α} {values : List α}
    (hx : x = .ok a) (hrest : Built.all rest = .ok values) :
    Built.all (x :: rest) = .ok (a :: values) := by
  rw [Built.all, hx, hrest]
  rfl

/-- The entry of a name. -/
theorem valuesOfEntry_name (hd : d.anchors = []) (hfuel : 0 < fuel) (text : List Char) {n : Node}
    {v : Value} (hn : inner d (valueOf d fuel) around n = .ok v) :
    valuesOfEntry d fuel around (.scalar .str text, n) = .ok (Value.ofChars text, v) := by
  obtain ⟨fuel, rfl⟩ : ∃ k, fuel = k + 1 := ⟨fuel - 1, by omega⟩
  have hkey : keyOf d (inner d (valueOf d (fuel + 1)) around) (.scalar .str text) =
      .ok (Value.ofChars text) :=
    (inner_of_noAnchors hd _ _).trans (valueOf_scalar (show isPlainTag .str = true from rfl) text)
  unfold valuesOfEntry
  rw [hkey, hn]
  rfl

/-- The keys of the entries of a form are texts. -/
theorem key_entryNodesOf (members : Members) :
    ∀ e ∈ entryNodesOf members, ∃ text, e.1 = .scalar .str text := by
  match members with
  | .last name _ f _ =>
    intro e he
    rw [List.mem_singleton.mp he]
    exact ⟨_, rfl⟩
  | .cons name _ f _ rest =>
    intro e he
    rcases List.mem_cons.mp he with rfl | he
    · exact ⟨_, rfl⟩
    · exact key_entryNodesOf rest e he

/-- There is at least the node itself in a node. -/
theorem size_pos (n : Node) : 0 < n.size := by
  cases n <;> exact Nat.succ_pos _

/-- A tree of JSON stands for itself. -/
theorem target_nodeOf (f : Form) : d.target (nodeOf f) = nodeOf f := by
  cases f <;> rfl

mutual

/-- **The tree of a form is worth what the form is.** -/
theorem valueOf_nodeOf (hd : d.anchors = []) : (f : Form) → f.keeps portable = true →
    {fuel : Nat} → (around : List Node) → (nodeOf f).size ≤ fuel →
    valueOf d fuel around (nodeOf f) = .ok f.value
  | .word i, h, fuel + 1, around, _ => by
    have hvalue := scalarValue_word (of_decide_eq_true h)
    have htag : ∀ i : Fin Json.words.length, i.val < 3 →
        isPlainTag (.ofPlain (Json.words.get i).1) = true := by
      decide
    rw [nodeOf, valueOf_scalar (htag i (of_decide_eq_true h)), hvalue]
    rfl
  | .number n, h, fuel + 1, around, _ => by
    have hvalue := scalarValue_written h
    have htag : isPlainTag (.ofPlain n.written) = true := by
      rw [ofPlain_written h]
      cases n.isInteger <;> rfl
    rw [nodeOf, valueOf_scalar htag, hvalue]
    rfl
  | .text pieces, h, fuel + 1, around, _ => valueOf_scalar rfl _
  | .emptyArray _, _, fuel + 1, around, _ => valueOf_sequence rfl
  | .emptyObject _, _, fuel + 1, around, _ => by
    have hkeys : ∀ e ∈ ([] : Pairs), ∃ text, e.1 = .scalar .str text := nofun
    have hvalues : Built.all (([] : Pairs).map (valuesOfEntry d fuel around)) = .ok [] := rfl
    exact valueOf_mapping hkeys hvalues
  | .array items, h, fuel + 1, around, hfuel =>
    valueOf_sequence (all_nodesOf hd items h around (Nat.le_of_succ_le_succ hfuel))
  | .object members, h, fuel + 1, around, hfuel =>
    valueOf_mapping (key_entryNodesOf members)
      (all_entryNodesOf hd members h around (Nat.le_of_succ_le_succ hfuel))

/-- So is the tree in a collection. -/
theorem inner_nodeOf (hd : d.anchors = []) (f : Form) (h : f.keeps portable = true) {fuel : Nat}
    (around : List Node) (hfuel : (nodeOf f).size ≤ fuel) :
    inner d (valueOf d fuel) around (nodeOf f) = .ok f.value := by
  rw [inner_of_noAnchors hd, target_nodeOf]
  exact valueOf_nodeOf hd f h (nodeOf f :: around) hfuel

/-- So are those of items. -/
theorem all_nodesOf (hd : d.anchors = []) : (items : Items) → items.keeps portable = true →
    {fuel : Nat} → (around : List Node) → Node.sizeOfItems (nodesOf items) ≤ fuel →
    Built.all ((nodesOf items).map (inner d (valueOf d fuel) around)) = .ok items.values
  | .last _ f _, h, fuel, around, hfuel => by
    rw [Items.keeps, Bool.and_eq_true, Bool.and_eq_true] at h
    rw [nodesOf, Node.sizeOfItems, Node.sizeOfItems] at hfuel
    exact all_cons (inner_nodeOf hd f h.1.2 around (by omega)) rfl
  | .cons _ f _ rest, h, fuel, around, hfuel => by
    simp only [Items.keeps, Bool.and_eq_true] at h
    rw [nodesOf, Node.sizeOfItems] at hfuel
    exact all_cons (inner_nodeOf hd f h.1.1.2 around (by omega))
      (all_nodesOf hd rest h.2 around (by omega))

/-- So are those of entries. -/
theorem all_entryNodesOf (hd : d.anchors = []) : (members : Members) →
    members.keeps portable = true → {fuel : Nat} → (around : List Node) →
    Node.sizeOfPairs (entryNodesOf members) ≤ fuel →
    Built.all ((entryNodesOf members).map (valuesOfEntry d fuel around)) = .ok members.pairs
  | .last name _ f _, h, fuel, around, hfuel => by
    simp only [Members.keeps, Bool.and_eq_true] at h
    rw [entryNodesOf, Node.sizeOfPairs, Node.sizeOfPairs] at hfuel
    have hpos := size_pos (nodeOf f)
    exact all_cons (valuesOfEntry_name hd (by omega) _
      (inner_nodeOf hd f h.1.2 around (by omega))) rfl
  | .cons name _ f _ rest, h, fuel, around, hfuel => by
    simp only [Members.keeps, Bool.and_eq_true] at h
    rw [entryNodesOf, Node.sizeOfPairs] at hfuel
    have hpos := size_pos (nodeOf f)
    exact all_cons (valuesOfEntry_name hd (by omega) _
      (inner_nodeOf hd f h.1.1.2 around (by omega)))
      (all_entryNodesOf hd rest h.2 around (by omega))

end

end Values

/-! ### Whole texts -/

/-- Where every character may stand in a text, none is at fault. -/
theorem faultOfCharacters?_of_all {text : List Char} (h : text.all isAllowed = true) :
    faultOfCharacters? text = none := by
  have hnone : text.findIdx? (!isAllowed ·) = none := by
    rw [List.findIdx?_eq_none_iff]
    exact fun c hc => by rw [List.all_eq_true.mp h c hc]; rfl
  unfold faultOfCharacters?
  rw [hnone]
  rfl

/-- Blanks are allowed. -/
theorem all_isAllowed_blanks {blanks : List Char} (h : blanks.all isPlainBlank = true) :
    blanks.all isAllowed = true := by
  rw [List.all_eq_true] at h ⊢
  intro b hb
  rcases isPlainBlank_iff.mp (h b hb) with rfl | rfl <;> rfl

/-- So are the characters of texts. -/
theorem all_isAllowed_text {pieces : List Piece} (hsound : Piece.areSound pieces = true)
    (hportable : pieces.all isPortable = true) :
    (Piece.writtenAll pieces).all isAllowed = true := by
  have hchars := all_isLineChar_writtenAll hsound hportable
  rw [List.all_eq_true] at hchars ⊢
  exact fun c hc => (Bool.and_eq_true_iff.mp (hchars c hc)).1

/-- So are those of numbers. -/
theorem all_isAllowed_number {n : Numeral} (h : isPortableNumber n = true) :
    n.written.all isAllowed = true := by
  have hchars := Json.all_isNumberChar_written (Bool.and_eq_true_iff.mp h).1
  rw [List.all_eq_true] at hchars ⊢
  intro c hc
  have hnumber := hchars c hc
  simp only [Json.isNumberChar, Bool.or_eq_true, beq_iff_eq] at hnumber
  rcases hnumber with ((((hdigit | rfl) | rfl) | rfl) | rfl) | rfl
  · exact (Bool.and_eq_true_iff.mp (isLineChar_of_isDigit hdigit)).1
  all_goals rfl

/-- A name is allowed as it is written. -/
theorem all_isAllowed_name {name : Name} (h : name.keeps portable = true) :
    name.written.all isAllowed = true := by
  simp only [Name.keeps, portable, Bool.and_eq_true] at h
  obtain ⟨hbefore, ⟨⟨hsound, hportable⟩, hspaces⟩, -⟩ := h
  have hafter := all_isPlainBlank_of_spaces hspaces
  rw [Name.written, List.all_append, List.all_cons, List.all_append, List.all_cons,
    all_isAllowed_blanks hbefore, all_isAllowed_text hsound hportable, all_isAllowed_blanks hafter]
  rfl

mutual

/-- A form is allowed as it is written, and has no more tokens than characters. -/
theorem isAllowed_form : (f : Form) → f.keeps portable = true →
    f.written.all isAllowed = true ∧ (tokensOf f).length ≤ f.written.length
  | .word i, _ => by
    have hall : ∀ i : Fin Json.words.length, (Json.words.get i).1.all isAllowed = true ∧
        1 ≤ (Json.words.get i).1.length := by
      decide
    exact hall i
  | .number n, h => by
    refine ⟨all_isAllowed_number h, ?_⟩
    obtain ⟨d, rest, -, hwritten | hwritten⟩ :=
      Json.exists_written_cons (Bool.and_eq_true_iff.mp h).1
    all_goals
      rw [Form.written, hwritten]
      exact Nat.succ_le_succ (Nat.zero_le _)
  | .text pieces, h => by
    have hboth : Piece.areSound pieces = true ∧ pieces.all isPortable = true :=
      Bool.and_eq_true_iff.mp h
    refine ⟨?_, Nat.succ_le_succ (Nat.zero_le _)⟩
    rw [Form.written, List.all_cons, List.all_append, all_isAllowed_text hboth.1 hboth.2]
    rfl
  | .emptyArray blanks, h => by
    constructor
    · rw [Form.written, List.all_cons, List.all_append, all_isAllowed_blanks h]
      rfl
    · simp only [Form.written, tokensOf, List.length_cons, List.length_append, List.length_nil]
      omega
  | .emptyObject blanks, h => by
    constructor
    · rw [Form.written, List.all_cons, List.all_append, all_isAllowed_blanks h]
      rfl
    · simp only [Form.written, tokensOf, List.length_cons, List.length_append, List.length_nil]
      omega
  | .array items, h => by
    obtain ⟨hall, hlength⟩ := isAllowed_items items h
    constructor
    · rw [Form.written, List.all_cons, List.all_append, hall]
      rfl
    · simp only [Form.written, tokensOf, List.length_cons, List.length_append, List.length_nil]
      omega
  | .object members, h => by
    obtain ⟨hall, hlength⟩ := isAllowed_members members h
    constructor
    · rw [Form.written, List.all_cons, List.all_append, hall]
      rfl
    · simp only [Form.written, tokensOf, List.length_cons, List.length_append, List.length_nil]
      omega

/-- So are items. -/
theorem isAllowed_items : (items : Items) → items.keeps portable = true →
    items.written.all isAllowed = true ∧ (tokensOfItems items).length ≤ items.written.length
  | .last before f after, h => by
    simp only [Items.keeps, Bool.and_eq_true] at h
    obtain ⟨⟨hbefore, hf⟩, hafter⟩ := h
    obtain ⟨hall, hlength⟩ := isAllowed_form f hf
    constructor
    · rw [Items.written, List.all_append, List.all_append, all_isAllowed_blanks hbefore, hall,
        all_isAllowed_blanks hafter]
      rfl
    · simp only [Items.written, tokensOfItems, List.length_append]
      omega
  | .cons before f after rest, h => by
    simp only [Items.keeps, Bool.and_eq_true] at h
    obtain ⟨⟨⟨hbefore, hf⟩, hafter⟩, hrest⟩ := h
    obtain ⟨hall, hlength⟩ := isAllowed_form f hf
    obtain ⟨hmore, hmoreLength⟩ := isAllowed_items rest hrest
    constructor
    · rw [Items.written, List.all_append, List.all_append, List.all_append, List.all_cons,
        all_isAllowed_blanks hbefore, hall, all_isAllowed_blanks hafter, hmore]
      rfl
    · simp only [Items.written, tokensOfItems, List.length_append, List.length_cons]
      omega

/-- So are entries. -/
theorem isAllowed_members : (members : Members) → members.keeps portable = true →
    members.written.all isAllowed = true ∧
      (tokensOfMembers members).length ≤ members.written.length
  | .last name before f after, h => by
    simp only [Members.keeps, Bool.and_eq_true] at h
    obtain ⟨⟨⟨hname, hbefore⟩, hf⟩, hafter⟩ := h
    obtain ⟨hall, hlength⟩ := isAllowed_form f hf
    constructor
    · rw [Members.written, List.all_append, List.all_cons, List.all_append, List.all_append,
        all_isAllowed_name hname, all_isAllowed_blanks hbefore, hall, all_isAllowed_blanks hafter]
      rfl
    · simp only [Members.written, Name.written, tokensOfMembers, List.length_append,
        List.length_cons]
      omega
  | .cons name before f after rest, h => by
    simp only [Members.keeps, Bool.and_eq_true] at h
    obtain ⟨⟨⟨⟨hname, hbefore⟩, hf⟩, hafter⟩, hrest⟩ := h
    obtain ⟨hall, hlength⟩ := isAllowed_form f hf
    obtain ⟨hmore, hmoreLength⟩ := isAllowed_members rest hrest
    constructor
    · rw [Members.written, List.all_append, List.all_cons, List.all_append, List.all_append,
        List.all_append, List.all_cons, all_isAllowed_name hname, all_isAllowed_blanks hbefore,
        hall, all_isAllowed_blanks hafter, hmore]
      rfl
    · simp only [Members.written, Name.written, tokensOfMembers, List.length_append,
        List.length_cons]
      omega

end

/-- The document of a text in JSON is its tree. -/
theorem ofText?_written {f : Form} {entries : Entries} (h : f.keeps portable = true)
    (hobject : f.value = .map entries) {before after : List Char}
    (hbefore : before.all isPlainBlank = true) (hafter : after.all isPlainBlank = true) :
    Document.ofText? (before ++ (f.written ++ after)) = .ok (some ⟨nodeOf f, []⟩) := by
  have hlength := (isAllowed_form f h).2
  have hfuel : (tokensOf f).length ≤ 4 * (before ++ (f.written ++ after)).length + 16 := by
    rw [List.length_append, List.length_append]
    omega
  have hstart : Reader.Delivers ⟨.ofText (before ++ (f.written ++ after)), [], []⟩
      (tokensOf f ++ [.textEnd]) :=
    ⟨nofun, Lexer.yields_object h hobject hbefore hafter, rfl⟩
  obtain ⟨r, hrun, -, -, hanchors⟩ := Reader.reads_root hfuel _ hstart
  unfold Document.ofText?
  rw [hrun]
  show Except.ok (some (Document.mk (nodeOf f) r.defined)) = _
  unfold Reading.defined
  rw [hanchors]
  rfl

/-- **A text in JSON is read with its meaning**, if it is one object and keeps the rules. -/
theorem read_written {f : Form} {entries : Entries} (h : f.keeps portable = true)
    (hobject : f.value = .map entries) {before after : List Char}
    (hbefore : before.all isPlainBlank = true) (hafter : after.all isPlainBlank = true) :
    read (before ++ (f.written ++ after)) = .ok (.map entries) := by
  have hallowed : faultOfCharacters? (before ++ (f.written ++ after)) = none := by
    have hall : (before ++ (f.written ++ after)).all isAllowed = true := by
      rw [List.all_append, List.all_append, all_isAllowed_blanks hbefore,
        (isAllowed_form f h).1, all_isAllowed_blanks hafter]
      rfl
    exact faultOfCharacters?_of_all hall
  have hvalue : (⟨nodeOf f, []⟩ : Document).value = .ok (.map entries) := by
    have hroot : valueOf ⟨nodeOf f, []⟩ ((nodeOf f).size + 1) [] (nodeOf f) = .ok f.value :=
      valueOf_nodeOf rfl f h [] (Nat.le_succ _)
    show (valueOf ⟨nodeOf f, []⟩ ((nodeOf f).size + 1) [] (nodeOf f)).mapError Delayed.fault = _
    rw [hroot, hobject]
    rfl
  unfold read
  rw [hallowed, ofText?_written h hobject hbefore hafter]
  exact hvalue

end Phrasebook.Yaml
