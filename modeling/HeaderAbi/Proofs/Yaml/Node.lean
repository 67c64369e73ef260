import HeaderAbi.Proofs.Yaml.Lexing
import HeaderAbi.Yaml.Reader

/-!
# The nodes of a written YAML text

**The words of a value are read as its node** (`node_words`).  The induction is on the value, for
every text of words behind it; four steps of fuel suffice for every word.

What is read has no types yet: unquoted scalars stay as they are (`asRead`).  A tag is read together
with the node behind it and opens no level of its own (`nesting`).
-/

namespace HeaderAbi.Yaml

open Data

/-! ### Data before types are given -/

mutual

/-- What the words of a value are read as. -/
def asRead : Data → Data
  | .null => .plain "null"
  | .bool b => .plain (if b then "true" else "false")
  | .int n => .plain (toString n)
  | .text s => if isPlainText s then .plain s else .text s
  | .list items => .sequence (listAsRead items)
  | .object fields => .mapping (fieldsAsRead fields)
  | .tagged tag content => .tagged tag (asRead content)
  | d => d

def listAsRead : List Data → List Data
  | [] => []
  | d :: ds => asRead d :: listAsRead ds

def fieldsAsRead : List (String × Data) → List (Data × Data)
  | [] => []
  | (k, d) :: fs => (.plain k, asRead d) :: fieldsAsRead fs

end

mutual

/-- The collections that are open at once in the words of a value. -/
def nesting : Data → Nat
  | .list items => nestingList items + 1
  | .object fields => nestingFields fields + 1
  | .tagged _ content => nesting content
  | _ => 0

def nestingList : List Data → Nat
  | [] => 0
  | d :: ds => max (nesting d) (nestingList ds)

def nestingFields : List (String × Data) → Nat
  | [] => 0
  | (_, d) :: fs => max (nesting d) (nestingFields fs)

end

mutual

/-- Tags apart, what is open in YAML is open in JSON too. -/
theorem nesting_le_depth : ∀ d : Data, nesting d ≤ d.depth
  | .list ds => Nat.succ_le_succ (nestingList_le_depthList ds)
  | .object fs => Nat.succ_le_succ (nestingFields_le_depthFields fs)
  | .tagged _ content => Nat.le_succ_of_le (nesting_le_depth content)
  | .sequence _ | .mapping _ => Nat.zero_le _
  | .null | .blank | .bool _ | .int _ | .float _ | .text _ | .plain _ => Nat.le_refl 0

theorem nestingList_le_depthList : ∀ ds : List Data, nestingList ds ≤ depthList ds
  | [] => Nat.le_refl 0
  | d :: ds => by
    have hd := nesting_le_depth d
    have hds := nestingList_le_depthList ds
    rw [nestingList, depthList]
    omega

theorem nestingFields_le_depthFields : ∀ fs : List (String × Data),
    nestingFields fs ≤ depthFields fs
  | [] => Nat.le_refl 0
  | (_, d) :: fs => by
    have hd := nesting_le_depth d
    have hfs := nestingFields_le_depthFields fs
    rw [nestingFields, depthFields]
    omega

end

/-- The node of a value. -/
def nodeOf (d : Data) : Node :=
  ⟨asRead d, nesting d, 0⟩

/-- The nodes of a field. -/
def fieldNodes (f : String × Data) : Node × Node :=
  (⟨.plain f.1, 0, 0⟩, nodeOf f.2)

theorem listAsRead_eq_map (ds : List Data) : listAsRead ds = ds.map asRead := by
  induction ds with
  | nil => rfl
  | cons d ds ih => rw [listAsRead, ih, List.map_cons]

theorem fieldsAsRead_eq_map (fs : List (String × Data)) :
    fieldsAsRead fs = fs.map fun f => (.plain f.1, asRead f.2) := by
  induction fs with
  | nil => rfl
  | cons f fs ih => rw [fieldsAsRead, ih, List.map_cons]

theorem foldl_depth_nodeOf (ds : List Data) (m : Nat) :
    (ds.map nodeOf).foldl (fun m n => max m n.depth) m = max m (nestingList ds) := by
  induction ds generalizing m with
  | nil => exact (Nat.max_zero m).symm
  | cons d ds ih =>
    rw [List.map_cons, List.foldl_cons, ih, nestingList, ← Nat.max_assoc]
    rfl

theorem foldl_depth_fieldNodes (fs : List (String × Data)) (m : Nat) :
    ((fs.map fieldNodes).flatMap fun (k, v) => [k, v]).foldl (fun m n => max m n.depth) m =
      max m (nestingFields fs) := by
  induction fs generalizing m with
  | nil => exact (Nat.max_zero m).symm
  | cons f fs ih =>
    change ((fs.map fieldNodes).flatMap fun (k, v) => [k, v]).foldl (fun m n => max m n.depth)
      (max (max m 0) (nesting f.2)) = _
    rw [ih, Nat.max_zero, Nat.max_assoc]
    rfl

theorem foldl_jumps {ns : List Node} (h : ∀ n ∈ ns, n.jumps = 0) :
    ns.foldl (fun m n => m + n.jumps) 0 = 0 := by
  induction ns with
  | nil => rfl
  | cons n ns ih =>
    rw [List.foldl_cons, h n List.mem_cons_self]
    exact ih fun n hn => h n (List.mem_cons_of_mem _ hn)

theorem listNode_map (ds : List Data) : listNode (ds.map nodeOf) = nodeOf (.list ds) := by
  have hjumps : ∀ n ∈ ds.map nodeOf, n.jumps = 0 := by
    simp [nodeOf]
  have hdata : (ds.map nodeOf).map (·.data) = ds.map asRead := by
    rw [List.map_map]
    rfl
  rw [listNode, above, foldl_depth_nodeOf, foldl_jumps hjumps, hdata, Nat.zero_max, nodeOf, asRead,
    listAsRead_eq_map]
  rfl

theorem mapNode_map (fs : List (String × Data)) :
    mapNode (fs.map fieldNodes) = nodeOf (.object fs) := by
  have hjumps : ∀ n ∈ (fs.map fieldNodes).flatMap fun (k, v) => [k, v], n.jumps = 0 := by
    intro n hn
    simp only [List.mem_flatMap, List.mem_map] at hn
    obtain ⟨_, ⟨f, -, rfl⟩, hn⟩ := hn
    simp only [fieldNodes, List.mem_cons, List.not_mem_nil, or_false] at hn
    obtain rfl | rfl := hn <;> rfl
  have hdata : ((fs.map fieldNodes).map fun (k, v) => (k.data, v.data)) =
      fs.map fun f => (.plain f.1, asRead f.2) := by
    rw [List.map_map]
    rfl
  rw [mapNode, above, foldl_depth_fieldNodes, foldl_jumps hjumps, hdata, Nat.zero_max, nodeOf,
    asRead, fieldsAsRead_eq_map]
  rfl

/-! ### Nodes -/

/-- The reader of a document without anchors and directives. -/
def progress (ws : List Token) (n : Nat) : Progress :=
  { words := ws, events := n }

section Nodes
variable {fuel n : Nat} {b : Bool} {ws : List Token}

theorem node_scalar (hfuel : 1 ≤ fuel) (s : String) (isPlain : Bool) :
    node true b fuel (progress (.scalar s isPlain :: ws) n) =
      some (⟨if isPlain then .plain s else .text s, 0, 0⟩, progress ws (n + 1)) := by
  obtain ⟨fuel, rfl⟩ := Nat.exists_eq_add_of_le' hfuel
  rfl

theorem node_brackets (hfuel : 2 ≤ fuel) :
    node true b fuel (progress (.openBracket :: .closeBracket :: ws) n) =
      some (nodeOf (.list []), progress ws (n + 2)) := by
  obtain ⟨fuel, rfl⟩ := Nat.exists_eq_add_of_le' hfuel
  rfl

theorem node_braces (hfuel : 2 ≤ fuel) :
    node true b fuel (progress (.openBrace :: .closeBrace :: ws) n) =
      some (nodeOf (.object []), progress ws (n + 2)) := by
  obtain ⟨fuel, rfl⟩ := Nat.exists_eq_add_of_le' hfuel
  rfl

theorem node_openItems :
    node true b (fuel + 1) (progress (.openItems :: ws) n) =
      (items [] fuel (progress ws n)).bind fun r =>
        some (listNode r.1, { r.2 with events := r.2.events + 2 }) := by
  rfl

theorem node_openEntries :
    node true b (fuel + 1) (progress (.openEntries :: ws) n) =
      (entries [] fuel (progress ws n)).bind fun r =>
        some (mapNode r.1, { r.2 with events := r.2.events + 2 }) := by
  rfl

theorem node_dash :
    node true true (fuel + 1) (progress (.dash :: ws) n) =
      (indentlessItems [] fuel (progress (.dash :: ws) n)).bind fun r =>
        some (listNode r.1, { r.2 with events := r.2.events + 2 }) := by
  rfl

theorem items_dash (done : List Node) :
    items done (fuel + 1) (progress (.dash :: ws) n) =
      (nodeUnless [.dash, .close] true false fuel (progress ws n)).bind fun r =>
        items (r.1 :: done) fuel r.2 := by
  rfl

theorem items_close (done : List Node) :
    items done (fuel + 1) (progress (.close :: ws) n) = some (done.reverse, progress ws n) := by
  rfl

theorem indentlessItems_dash (done : List Node) :
    indentlessItems done (fuel + 1) (progress (.dash :: ws) n) =
      (nodeUnless [.dash, .key, .value, .close] true false fuel (progress ws n)).bind fun r =>
        indentlessItems (r.1 :: done) fuel r.2 := by
  rfl

theorem entries_key (done : List (Node × Node)) (k : String) :
    entries done (fuel + 3) (progress (.key :: .scalar k true :: .value :: ws) n) =
      (nodeUnless [.key, .value, .close] true true (fuel + 1) (progress ws (n + 1))).bind fun r =>
        entries ((⟨.plain k, 0, 0⟩, r.1) :: done) (fuel + 2) r.2 := by
  rfl

theorem entries_close (done : List (Node × Node)) :
    entries done (fuel + 1) (progress (.close :: ws) n) = some (done.reverse, progress ws n) := by
  rfl

end Nodes

/-! ### Nodes under tags -/

section Tags
variable {fuel n : Nat} {b : Bool} {ws : List Token} {tag : String}

/-- The words that a value without a tag can start with. -/
def startsContent (indentless : Bool) : Token → Bool
  | .scalar .. => true
  | .openBracket => true
  | .openBrace => true
  | .openItems => true
  | .openEntries => true
  | .dash => indentless
  | _ => false

theorem variantName?_append (tag : String) : variantName? ("!" ++ tag) = some tag := by
  rw [variantName?, String.toList_append]
  exact congrArg some (String.ofList_toList)

theorem tagged_append (h : tag ≠ "") (d : Data) :
    tagged (some ("!" ++ tag)) d = pure (.tagged tag d) := by
  have hname : (some ("!" ++ tag)).bind variantName? = some tag := variantName?_append tag
  unfold tagged
  split <;> rename_i heq <;> rw [hname] at heq
  · exact absurd (Option.some.inj heq) h
  · obtain rfl := Option.some.inj heq
    rfl
  · cases heq

theorem scalar_append (h : tag ≠ "") (text : String) (isPlain : Bool) :
    scalar (some ("!" ++ tag)) text isPlain =
      pure (.tagged tag (if isPlain then .plain text else .text text)) := by
  have hname := variantName?_append tag
  have hne : "!" ++ tag ≠ "!" := by
    intro heq
    rw [heq] at hname
    exact h (Option.some.inj hname).symm
  generalize htext : (if isPlain then Data.plain text else .text text) = untagged
  rw [scalar, hname, htext]
  · exact tagged_append h _
  · exact hne

/-- A node under a tag, with the reader behind it. -/
def mark (tag : String) (r : Node × Progress) : Node × Progress :=
  ({ r.1 with data := .tagged tag r.1.data }, r.2)

/-- A tag marks the collection whose parts are read. -/
theorem collection_tag {α : Type} (h : tag ≠ "") (parts : Reading α) (make : α → Node)
    (p : Progress) :
    (parts p).bind (fun r => collection ⟨none, some ("!" ++ tag)⟩ (make r.1) r.2) =
      ((parts p).bind fun r => collection {} (make r.1) r.2).map (mark tag) := by
  cases parts p with
  | none => rfl
  | some r =>
    obtain ⟨a, q⟩ := r
    change (tagged (some ("!" ++ tag)) (make a).data _).bind _ = _
    rw [tagged_append h]
    rfl

/-- **A tag marks the node that follows it.** -/
theorem node_tag (h : tag ≠ "") {t : Token} (ht : startsContent b t = true) :
    node true b (fuel + 1) (progress (.tag "!" tag :: t :: ws) n) =
      (node true b (fuel + 1) (progress (t :: ws) n)).map (mark tag) := by
  cases t with
  | scalar s isPlain =>
    change (scalar (some ("!" ++ tag)) s isPlain (progress ws (n + 1))).bind _ = _
    rw [scalar_append h, node_scalar (Nat.le_add_left 1 fuel)]
    rfl
  | openItems => exact collection_tag h (items [] fuel) listNode (progress ws n)
  | openEntries => exact collection_tag h (entries [] fuel) mapNode (progress ws n)
  | openBracket => exact collection_tag h (bracketItems true [] fuel) listNode (progress ws n)
  | openBrace => exact collection_tag h (braceEntries true [] fuel) mapNode (progress ws n)
  | dash =>
    obtain rfl : b = true := ht
    exact collection_tag h (indentlessItems [] fuel) listNode (progress (.dash :: ws) n)
  | _ => cases ht

end Tags

/-! ### Values -/

/-- The words that a value can start with. -/
def startsNode (indentless : Bool) (t : Token) : Bool :=
  match t with
  | .tag .. => true
  | t => startsContent indentless t

theorem exists_words {d : Data} (h : d.isWritten = true) (hd : d.isTagged = false) (b : Bool) :
    ∃ t ws, words b d = t :: ws ∧ startsContent b t = true := by
  cases d with
  | list ds => cases ds <;> cases b <;> exact ⟨_, _, rfl, rfl⟩
  | object fs => cases fs <;> exact ⟨_, _, rfl, rfl⟩
  | tagged tag content => cases hd
  | null => exact ⟨_, _, rfl, rfl⟩
  | bool => exact ⟨_, _, rfl, rfl⟩
  | int => exact ⟨_, _, rfl, rfl⟩
  | text => exact ⟨_, _, rfl, rfl⟩
  | _ => cases h

theorem nodeUnless_words {d : Data} {b : Bool} {stops ws : List Token} {fuel n : Nat}
    (h : d.isWritten = true) (hstops : ∀ t ∈ stops, startsNode b t = false) :
    nodeUnless stops true b (fuel + 1) (progress (words b d ++ ws) n) =
      node true b fuel (progress (words b d ++ ws) n) := by
  obtain ⟨t, us, hwords, ht⟩ : ∃ t us, words b d = t :: us ∧ startsNode b t = true := by
    by_cases hd : d.isTagged = true
    · cases d with
      | tagged tag content => exact ⟨_, _, rfl, rfl⟩
      | _ => cases hd
    · obtain ⟨t, us, hwords, ht⟩ := exists_words h (Bool.not_eq_true _ ▸ hd) b
      refine ⟨t, us, hwords, ?_⟩
      cases t <;> first | rfl | exact ht
  have hcontains : stops.contains t = false := by
    rw [← Bool.not_eq_true, List.contains_iff_mem]
    intro hmem
    rw [hstops t hmem] at ht
    cases ht
  rw [hwords, List.cons_append]
  change (if stops.contains t then emptyNode else node true b fuel) _ = _
  rw [hcontains]
  rfl

/-- A value that ends where the dashes do must not have another dash behind it. -/
def EndsDashes (b : Bool) (ws : List Token) : Prop :=
  b = true → ws.head? ≠ some .dash

theorem endsDashes_false (ws : List Token) : EndsDashes false ws :=
  fun h => absurd h Bool.false_ne_true

theorem indentlessItems_end {done : List Node} {fuel n : Nat} {ws : List Token}
    (h : EndsDashes true ws) :
    indentlessItems done (fuel + 1) (progress ws n) = some (done.reverse, progress ws n) := by
  cases ws with
  | nil => rfl
  | cons t ws =>
    have ht : t ≠ .dash := fun heq => h rfl (congrArg some heq)
    cases t <;> first | rfl | exact absurd rfl ht

theorem endsDashes_fieldWords (fs : List (String × Data)) (ws : List Token) :
    EndsDashes true (fieldWords fs ++ .close :: ws) := by
  intro _
  cases fs <;> simp [fieldWords]

theorem ne_empty_of_isName {k : String} (h : isName k = true) : k ≠ "" := by
  rintro rfl
  exact ne_nil_of_isName h rfl

/-- Four steps suffice for every word. -/
theorem four_le_of_fuel {t : Token} {ts : List Token} {fuel : Nat}
    (h : 4 * (t :: ts).length ≤ fuel) : 4 ≤ fuel :=
  Nat.le_trans (Nat.le_mul_of_pos_right 4 (Nat.succ_pos _)) h

mutual

/-- **The words of a value are read as its node.** -/
theorem node_words : ∀ (d : Data) (b : Bool) (fuel : Nat) (ws : List Token) (n : Nat),
    d.isWritten = true → 4 * (words b d).length ≤ fuel → EndsDashes b ws →
      ∃ m, node true b fuel (progress (words b d ++ ws) n) = some (nodeOf d, progress ws m)
  | .null, b, fuel, ws, n, _, hfuel, _ => by
    have := four_le_of_fuel hfuel
    exact ⟨_, node_scalar (by omega) "null" true⟩
  | .bool v, b, fuel, ws, n, _, hfuel, _ => by
    have := four_le_of_fuel hfuel
    exact ⟨_, node_scalar (by omega) (if v then "true" else "false") true⟩
  | .int v, b, fuel, ws, n, _, hfuel, _ => by
    have := four_le_of_fuel hfuel
    exact ⟨_, node_scalar (by omega) (toString v) true⟩
  | .text s, b, fuel, ws, n, _, hfuel, _ => by
    have := four_le_of_fuel hfuel
    exact ⟨_, node_scalar (by omega) s (isPlainText s)⟩
  | .list [], b, fuel, ws, n, _, hfuel, _ => by
    have := four_le_of_fuel hfuel
    exact ⟨_, node_brackets (by omega)⟩
  | .object [], b, fuel, ws, n, _, hfuel, _ => by
    have := four_le_of_fuel hfuel
    exact ⟨_, node_braces (by omega)⟩
  | .list (d :: ds), false, fuel, ws, n, h, hfuel, _ => by
    have := four_le_of_fuel hfuel
    simp only [words, Bool.false_eq_true, if_false, List.length_cons, List.length_append,
      List.length_nil] at hfuel
    obtain ⟨fuel, rfl⟩ := Nat.exists_eq_add_of_le' (by omega : 1 ≤ fuel)
    obtain ⟨m, hitems⟩ := items_words (d :: ds) [] fuel ws n h (by omega) (by omega)
    refine ⟨m + 2, ?_⟩
    rw [words, if_neg Bool.false_ne_true, List.cons_append, List.append_assoc,
      List.singleton_append, node_openItems, hitems, Option.bind_some, List.reverse_nil,
      List.nil_append, listNode_map]
    rfl
  | .list (d :: ds), true, fuel, ws, n, h, hfuel, hws => by
    have := four_le_of_fuel hfuel
    obtain ⟨fuel, rfl⟩ := Nat.exists_eq_add_of_le' (by omega : 1 ≤ fuel)
    obtain ⟨m, hitems⟩ := indentlessItems_words (d :: ds) [] fuel ws n h hfuel (by omega) hws
    refine ⟨m + 2, ?_⟩
    -- No word opens the list: its first dash is seen here and read with the items.
    rw [words, if_pos rfl, itemWords, List.cons_append, node_dash, ← List.cons_append, ← itemWords,
      hitems, Option.bind_some, List.reverse_nil, List.nil_append, listNode_map]
    rfl
  | .object (f :: fs), b, fuel, ws, n, h, hfuel, _ => by
    have := four_le_of_fuel hfuel
    simp only [words, List.length_cons, List.length_append, List.length_nil] at hfuel
    obtain ⟨fuel, rfl⟩ := Nat.exists_eq_add_of_le' (by omega : 1 ≤ fuel)
    obtain ⟨m, hentries⟩ := entries_words (f :: fs) [] fuel ws n h (by omega) (by omega)
    refine ⟨m + 2, ?_⟩
    rw [words, List.cons_append, List.append_assoc, List.singleton_append, node_openEntries,
      hentries, Option.bind_some, List.reverse_nil, List.nil_append, mapNode_map]
    rfl
  | .tagged tag content, b, fuel, ws, n, h, hfuel, hws => by
    have := four_le_of_fuel hfuel
    simp only [isWritten, Bool.and_eq_true, Bool.not_eq_true'] at h
    obtain ⟨⟨htag, hcontent⟩, h⟩ := h
    simp only [words, List.length_cons] at hfuel
    -- The tag takes no fuel of its own: the content is read in the same step.
    obtain ⟨m, hnode⟩ := node_words content b fuel ws n h (by omega) hws
    obtain ⟨t, us, hwords, ht⟩ := exists_words h hcontent b
    refine ⟨m, ?_⟩
    obtain ⟨fuel, rfl⟩ := Nat.exists_eq_add_of_le' (by omega : 1 ≤ fuel)
    rw [hwords, List.cons_append] at hnode
    rw [words, hwords, List.cons_append, List.cons_append,
      node_tag (ne_empty_of_isName htag) ht, hnode]
    rfl

/-- The items of an indented list are read up to the word that ends it. -/
theorem items_words : ∀ (ds : List Data) (done : List Node) (fuel : Nat) (ws : List Token)
    (n : Nat), areWritten ds = true → 4 * (itemWords ds).length ≤ fuel + 1 → 0 < fuel →
      ∃ m, items done fuel (progress (itemWords ds ++ .close :: ws) n) =
        some (done.reverse ++ ds.map nodeOf, progress ws m)
  | [], done, fuel, ws, n, _, _, hfuel => by
    obtain ⟨fuel, rfl⟩ := Nat.exists_eq_add_of_le' hfuel
    refine ⟨n, ?_⟩
    rw [List.map_nil, List.append_nil]
    exact items_close done
  | d :: ds, done, fuel, ws, n, h, hfuel, _ => by
    simp only [areWritten, Bool.and_eq_true] at h
    simp only [itemWords, List.length_cons, List.length_append] at hfuel
    obtain ⟨fuel, rfl⟩ := Nat.exists_eq_add_of_le' (by omega : 2 ≤ fuel)
    obtain ⟨m, hnode⟩ := node_words d false fuel (itemWords ds ++ .close :: ws) n h.1 (by omega)
      (endsDashes_false _)
    obtain ⟨m', hitems⟩ := items_words ds (nodeOf d :: done) (fuel + 1) ws m h.2 (by omega)
      (by omega)
    refine ⟨m', ?_⟩
    rw [itemWords, List.cons_append, List.append_assoc, items_dash,
      nodeUnless_words h.1 (by decide), hnode, Option.bind_some, hitems, List.reverse_cons,
      List.append_assoc, List.singleton_append, List.map_cons]

/-- The items of a list below a key are read up to a word that is no dash. -/
theorem indentlessItems_words : ∀ (ds : List Data) (done : List Node) (fuel : Nat)
    (ws : List Token) (n : Nat), areWritten ds = true → 4 * (itemWords ds).length ≤ fuel + 1 →
      0 < fuel → EndsDashes true ws →
        ∃ m, indentlessItems done fuel (progress (itemWords ds ++ ws) n) =
          some (done.reverse ++ ds.map nodeOf, progress ws m)
  | [], done, fuel, ws, n, _, _, hfuel, hws => by
    obtain ⟨fuel, rfl⟩ := Nat.exists_eq_add_of_le' hfuel
    refine ⟨n, ?_⟩
    rw [List.map_nil, List.append_nil]
    exact indentlessItems_end hws
  | d :: ds, done, fuel, ws, n, h, hfuel, _, hws => by
    simp only [areWritten, Bool.and_eq_true] at h
    simp only [itemWords, List.length_cons, List.length_append] at hfuel
    obtain ⟨fuel, rfl⟩ := Nat.exists_eq_add_of_le' (by omega : 2 ≤ fuel)
    obtain ⟨m, hnode⟩ := node_words d false fuel (itemWords ds ++ ws) n h.1 (by omega)
      (endsDashes_false _)
    obtain ⟨m', hitems⟩ := indentlessItems_words ds (nodeOf d :: done) (fuel + 1) ws m h.2
      (by omega) (by omega) hws
    refine ⟨m', ?_⟩
    rw [itemWords, List.cons_append, List.append_assoc, indentlessItems_dash,
      nodeUnless_words h.1 (by decide), hnode, Option.bind_some, hitems, List.reverse_cons,
      List.append_assoc, List.singleton_append, List.map_cons]

/-- The fields of a record are read up to the word that ends it. -/
theorem entries_words : ∀ (fs : List (String × Data)) (done : List (Node × Node)) (fuel : Nat)
    (ws : List Token) (n : Nat), areFields fs = true →
      4 * (fieldWords fs).length ≤ fuel + 1 → 0 < fuel →
        ∃ m, entries done fuel (progress (fieldWords fs ++ .close :: ws) n) =
          some (done.reverse ++ fs.map fieldNodes, progress ws m)
  | [], done, fuel, ws, n, _, _, hfuel => by
    obtain ⟨fuel, rfl⟩ := Nat.exists_eq_add_of_le' hfuel
    refine ⟨n, ?_⟩
    rw [List.map_nil, List.append_nil]
    exact entries_close done
  | (k, d) :: fs, done, fuel, ws, n, h, hfuel, _ => by
    simp only [areFields, Bool.and_eq_true] at h
    obtain ⟨⟨-, hd⟩, hfs⟩ := h
    simp only [fieldWords, List.length_cons, List.length_append] at hfuel
    obtain ⟨fuel, rfl⟩ := Nat.exists_eq_add_of_le' (by omega : 3 ≤ fuel)
    obtain ⟨m, hnode⟩ := node_words d true fuel (fieldWords fs ++ .close :: ws) (n + 1) hd
      (by omega) (endsDashes_fieldWords fs ws)
    obtain ⟨m', hentries⟩ := entries_words fs (fieldNodes (k, d) :: done) (fuel + 2) ws m hfs
      (by omega) (by omega)
    refine ⟨m', ?_⟩
    rw [fieldWords, List.cons_append, List.cons_append, List.cons_append, List.append_assoc,
      entries_key, nodeUnless_words hd (by decide), hnode, Option.bind_some]
    change entries (fieldNodes (k, d) :: done) _ _ = _
    rw [hentries, List.reverse_cons, List.append_assoc, List.singleton_append, List.map_cons]

end

end HeaderAbi.Yaml
