import Mathlib.Data.List.Basic
import Mathlib.Data.List.Lex
import ModuleDiscovery.Script.Collector

/-!
# The specifiers of a tree are those of its nodes

A node is reached from the root by the numbers of the children on the way to it, its address
(`Tree.at?`).  `Tree.nodes` is the walk through a tree: every node of it once, in the order of
the addresses, so a node stands in front of everything inside it.  The collector yields what
the nodes on this walk give by themselves and nothing else (`specifiers_eq_flatMap`).
`Tree.Gives` says which nodes give something and what; `specifiers_exact` puts both together.
-/

namespace ModuleDiscovery.Script

namespace Tree

/-- What holds of a node when it holds of its children holds of all trees. -/
@[elab_as_elim]
theorem childInduction {motive : Tree → Prop}
    (node : ∀ role start children, (∀ child ∈ children, motive child) →
      motive (node role start children)) : ∀ t, motive t
  | .node role start children => node role start children fun child _ => childInduction node child

/-! ## Nodes and their addresses -/

/-- The node at an address. -/
def at? (t : Tree) : List ℕ → Option Tree
  | [] => some t
  | i :: address => t.children[i]?.bind fun child => child.at? address

mutual

/-- The nodes of a tree with their addresses, each in front of those inside it. -/
def nodes : Tree → List (List ℕ × Tree)
  | node role start children => ([], node role start children) :: nodesFrom 0 children

/-- The nodes of some children, the first of which has a given number. -/
def nodesFrom (first : ℕ) : List Tree → List (List ℕ × Tree)
  | [] => []
  | child :: rest => child.nodes.map (Prod.map (first :: ·) id) ++ nodesFrom (first + 1) rest

end

theorem nodes_node (role : Role) (start : ℕ) (children : List Tree) :
    (Tree.node role start children).nodes =
      ([], Tree.node role start children) :: nodesFrom 0 children :=
  rfl

theorem nodesFrom_cons (first : ℕ) (child : Tree) (rest : List Tree) :
    nodesFrom first (child :: rest) =
      child.nodes.map (Prod.map (first :: ·) id) ++ nodesFrom (first + 1) rest :=
  rfl

variable {t node : Tree} {children : List Tree} {address : List ℕ} {first : ℕ}

theorem at?_cons_eq_some_iff {i : ℕ} :
    t.at? (i :: address) = some node ↔
      ∃ child, t.children[i]? = some child ∧ child.at? address = some node := by
  rw [at?, Option.bind_eq_some_iff]

/-- The children are numbered from the given number on. -/
theorem mem_nodesFrom_iff :
    (address, node) ∈ nodesFrom first children ↔
      ∃ i rest child, address = (first + i) :: rest ∧ children[i]? = some child ∧
        (rest, node) ∈ child.nodes := by
  induction children generalizing first with
  | nil => exact iff_of_false List.not_mem_nil (by simp)
  | cons child children ih =>
      rw [nodesFrom_cons, List.mem_append, ih, List.mem_map]
      constructor
      · rintro (⟨⟨rest, found⟩, hmem, hentry⟩ | ⟨i, rest, other, rfl, hother, hmem⟩)
        · obtain ⟨rfl, rfl⟩ := Prod.mk.inj hentry
          exact ⟨0, rest, child, rfl, rfl, hmem⟩
        · exact ⟨i + 1, rest, other, by rw [Nat.add_right_comm, Nat.add_assoc], hother, hmem⟩
      · rintro ⟨i, rest, other, rfl, hother, hmem⟩
        cases i with
        | zero =>
            obtain rfl := Option.some.inj hother
            exact Or.inl ⟨(rest, node), hmem, rfl⟩
        | succ i =>
            exact Or.inr ⟨i, rest, other, by rw [Nat.add_right_comm, Nat.add_assoc], hother, hmem⟩

/-- The walk meets the nodes that have an address. -/
theorem mem_nodes_iff : (address, node) ∈ t.nodes ↔ t.at? address = some node := by
  induction t using childInduction generalizing address with
  | node role start children ih =>
      rw [nodes_node, List.mem_cons]
      cases address with
      | nil => simp [at?, mem_nodesFrom_iff, eq_comm]
      | cons i address =>
          rw [at?_cons_eq_some_iff, mem_nodesFrom_iff]
          constructor
          · rintro (hroot | ⟨j, rest, child, haddress, hchild, hmem⟩)
            · cases hroot
            · rw [Nat.zero_add] at haddress
              obtain ⟨rfl, rfl⟩ := List.cons.inj haddress
              exact ⟨child, hchild, (ih child (List.mem_of_getElem? hchild)).mp hmem⟩
          · rintro ⟨child, hchild, hfound⟩
            exact Or.inr ⟨i, address, child, by rw [Nat.zero_add], hchild,
              (ih child (List.mem_of_getElem? hchild)).mpr hfound⟩

theorem pairwise_nodesFrom
    (hchildren : ∀ child ∈ children, child.nodes.Pairwise (·.1 < ·.1)) :
    (nodesFrom first children).Pairwise (·.1 < ·.1) := by
  induction children generalizing first with
  | nil => exact List.Pairwise.nil
  | cons child children ih =>
      obtain ⟨hchild, hrest⟩ := List.forall_mem_cons.mp hchildren
      rw [nodesFrom_cons, List.pairwise_append, List.pairwise_map]
      refine ⟨hchild.imp fun hlt => List.cons_lt_cons_iff.mpr (Or.inr ⟨rfl, hlt⟩), ih hrest, ?_⟩
      rintro ⟨earlier, found⟩ hearlier ⟨later, other⟩ hlater
      -- the numbers of two children decide
      obtain ⟨⟨rest, _⟩, -, hentry⟩ := List.mem_map.mp hearlier
      obtain ⟨rfl, -⟩ := Prod.mk.inj hentry
      obtain ⟨i, _, _, rfl, -, -⟩ := mem_nodesFrom_iff.mp hlater
      exact List.cons_lt_cons_iff.mpr (Or.inl (by omega))

/-- The walk is in the order of the addresses. -/
theorem pairwise_nodes (t : Tree) : t.nodes.Pairwise (·.1 < ·.1) := by
  induction t using childInduction with
  | node role start children ih =>
      rw [nodes_node, List.pairwise_cons]
      refine ⟨?_, pairwise_nodesFrom ih⟩
      rintro ⟨address, node⟩ hmem
      obtain ⟨i, rest, -, rfl, -, -⟩ := mem_nodesFrom_iff.mp hmem
      exact List.nil_lt_cons _ _

/-! ## The collector's walk -/

theorem specifiers_node (mode : ParseMode) (role : Role) (start : ℕ) (children : List Tree) :
    (Tree.node role start children).specifiers mode =
      ownSpecifiers mode role children ++ specifiersAmong mode children :=
  rfl

theorem specifiersAmong_cons (mode : ParseMode) (t : Tree) (rest : List Tree) :
    specifiersAmong mode (t :: rest) = t.specifiers mode ++ specifiersAmong mode rest :=
  rfl

/-- What a node gives by itself. -/
def own (mode : ParseMode) (t : Tree) : List SpecifierSite :=
  ownSpecifiers mode t.role t.children

theorem own_node (mode : ParseMode) (role : Role) (start : ℕ) (children : List Tree) :
    (Tree.node role start children).own mode = ownSpecifiers mode role children :=
  rfl

variable {mode : ParseMode}

theorem specifiersAmong_eq_flatMap
    (hchildren : ∀ child ∈ children,
      child.specifiers mode = child.nodes.flatMap fun entry => entry.2.own mode) :
    specifiersAmong mode children =
      (nodesFrom first children).flatMap fun entry => entry.2.own mode := by
  induction children generalizing first with
  | nil => rfl
  | cons child children ih =>
      obtain ⟨hchild, hrest⟩ := List.forall_mem_cons.mp hchildren
      rw [specifiersAmong_cons, nodesFrom_cons, List.flatMap_append, List.flatMap_map, ← ih hrest,
        hchild]
      rfl

/-- The collector walks through the nodes. -/
theorem specifiers_eq_flatMap (mode : ParseMode) (t : Tree) :
    t.specifiers mode = t.nodes.flatMap fun entry => entry.2.own mode := by
  induction t using childInduction with
  | node role start children ih =>
      rw [specifiers_node, nodes_node, List.flatMap_cons, specifiersAmong_eq_flatMap ih]
      rfl

/-! ## What a node gives -/

/-- What an expression is as a specifier: a string has a value, and nothing else has. -/
inductive Spells : Tree → SpecifierSite → Prop
  | literal (value : String) (start : ℕ) (children : List Tree) :
      Spells (.node (.string value) start children) (.literal value start)
  | dynamic {t : Tree} (hplain : ∀ value, t.role ≠ .string value) : Spells t (.dynamic t.start)

/-- The nodes that give a specifier, and which one.  An `import()` always has a first argument;
a call of `require` may have none, and then it gives nothing. -/
inductive Gives (mode : ParseMode) : Tree → SpecifierSite → Prop
  | importDeclaration (source : StringLiteral) (start : ℕ) (children : List Tree) :
      Gives mode (.node (.importDeclaration source) start children)
        (.literal source.value source.offset)
  | exportNamed (source : StringLiteral) (start : ℕ) (children : List Tree) :
      Gives mode (.node (.exportNamed (some source)) start children)
        (.literal source.value source.offset)
  | exportAll (source : StringLiteral) (start : ℕ) (children : List Tree) :
      Gives mode (.node (.exportAll source) start children)
        (.literal source.value source.offset)
  | importCall {specifier : Tree} {site : SpecifierSite} (hspecifier : specifier.Spells site)
      (start : ℕ) (others : List Tree) :
      Gives mode (.node .importCall start (specifier :: others)) site
  | require {callee argument : Tree} {site : SpecifierSite} (hmode : mode = .script)
      (hcallee : callee.role = .identifier "require") (hargument : argument.Spells site)
      (chained : Bool) (start : ℕ) (others : List Tree) :
      Gives mode (.node (.call chained) start (callee :: argument :: others)) site

/-- Whether a node calls the bare name `require` with something. -/
def isRequire : Tree → Bool
  | .node (.call _) _ (callee :: _ :: _) => callee.role = .identifier "require"
  | _ => false

variable {site : SpecifierSite}

theorem spells_iff : t.Spells site ↔ SpecifierSite.ofExpression t = site := by
  constructor
  · rintro (⟨value, start, children⟩ | hplain)
    · rfl
    · unfold SpecifierSite.ofExpression
      split
      · exact absurd ‹_› (hplain _)
      · rfl
  · rintro rfl
    unfold SpecifierSite.ofExpression
    split
    case h_1 value hrole =>
      obtain ⟨_, start, children⟩ := t
      obtain rfl : _ = Role.string value := hrole
      exact .literal value start children
    case h_2 hrole => exact .dynamic hrole

theorem mem_own_iff : site ∈ t.own mode ↔ t.Gives mode site := by
  constructor
  · intro hsite
    obtain ⟨role, start, children⟩ := t
    rw [own_node] at hsite
    unfold ownSpecifiers at hsite
    split at hsite
    case h_1 _ source =>
      obtain rfl := List.mem_singleton.mp hsite
      exact .importDeclaration source start _
    case h_2 _ source =>
      obtain rfl := List.mem_singleton.mp hsite
      exact .exportNamed source start _
    case h_3 _ source =>
      obtain rfl := List.mem_singleton.mp hsite
      exact .exportAll source start _
    case h_4 specifier others =>
      obtain rfl := List.mem_singleton.mp hsite
      exact .importCall (spells_iff.mpr rfl) start others
    case h_5 chained callee argument others =>
      split_ifs at hsite with hrequire
      · obtain rfl := List.mem_singleton.mp hsite
        exact .require hrequire.1 hrequire.2 (spells_iff.mpr rfl) chained start others
      · cases hsite
    case h_6 => cases hsite
  · intro hgives
    cases hgives with
    | importDeclaration | exportNamed | exportAll => exact List.mem_singleton_self _
    | importCall hspecifier => exact List.mem_singleton.mpr (spells_iff.mp hspecifier).symm
    | require hmode hcallee hargument =>
        rw [own_node, ownSpecifiers, if_pos ⟨hmode, hcallee⟩]
        exact List.mem_singleton.mpr (spells_iff.mp hargument).symm

theorem length_own_le_one (mode : ParseMode) (t : Tree) : (t.own mode).length ≤ 1 := by
  unfold own ownSpecifiers
  split
  case h_5 => split_ifs <;> simp
  all_goals simp

/-- Modules differ from scripts in the calls of `require` alone. -/
theorem own_module (t : Tree) :
    t.own .module = if t.isRequire then [] else t.own .script := by
  obtain ⟨role, start, children⟩ := t
  unfold isRequire
  split
  case h_1 chained start callee argument others hcall =>
    cases hcall
    by_cases hcallee : callee.role = .identifier "require"
    · simp [own_node, ownSpecifiers, hcallee]
    · simp [own_node, ownSpecifiers, requireName, hcallee]
  case h_2 hother =>
    simp only [Bool.false_eq_true, if_false]
    rw [own_node, own_node]
    unfold ownSpecifiers
    split
    case h_5 chained callee argument others =>
      exact absurd rfl (hother chained start callee argument others)
    all_goals rfl

/-! ## The specifiers of a tree -/

/-- The specifiers of a tree with the addresses of the nodes that give them. -/
def sites (mode : ParseMode) (t : Tree) : List (List ℕ × SpecifierSite) :=
  t.nodes.flatMap fun entry => (entry.2.own mode).map (entry.1, ·)

theorem map_snd_sites (mode : ParseMode) (t : Tree) :
    (t.sites mode).map Prod.snd = t.specifiers mode := by
  simp only [sites, specifiers_eq_flatMap, List.map_flatMap, List.map_map, Function.comp_def,
    List.map_id']

theorem mem_sites_iff :
    (address, site) ∈ t.sites mode ↔ ∃ node, t.at? address = some node ∧ node.Gives mode site := by
  simp only [sites, List.mem_flatMap, List.mem_map, Prod.mk.injEq, Prod.exists, mem_nodes_iff,
    mem_own_iff]
  constructor
  · rintro ⟨_, node, hnode, _, hgives, rfl, rfl⟩
    exact ⟨node, hnode, hgives⟩
  · rintro ⟨node, hnode, hgives⟩
    exact ⟨address, node, hnode, site, hgives, rfl, rfl⟩

theorem pairwise_sites (mode : ParseMode) (t : Tree) :
    (t.sites mode).Pairwise (·.1 < ·.1) := by
  rw [sites, List.pairwise_flatMap]
  constructor
  · rintro ⟨address, node⟩ -
    have hlength := length_own_le_one mode node
    match hown : node.own mode with
    | [] => exact List.Pairwise.nil
    | [site] => exact List.pairwise_singleton _ _
    | _ :: _ :: _ => simp [hown] at hlength
  · refine t.pairwise_nodes.imp fun hlt earlier hearlier later hlater => ?_
    obtain ⟨_, -, rfl⟩ := List.mem_map.mp hearlier
    obtain ⟨_, -, rfl⟩ := List.mem_map.mp hlater
    exact hlt

theorem sites_module (t : Tree) :
    t.sites .module = (t.sites .script).filter fun entry => !(t.at? entry.1).any isRequire := by
  rw [sites, sites, List.filter_flatMap]
  refine List.flatMap_congr fun entry hentry => ?_
  have hat : t.at? entry.1 = some entry.2 := mem_nodes_iff.mp hentry
  rw [own_module, List.filter_map]
  simp only [Function.comp_def, hat, Option.any_some]
  cases entry.2.isRequire <;> simp

/-- The collector yields one specifier for each node that gives one, and nothing else, in the
order of the addresses: what a node gives stands in front of what is given inside it.  A module
has the specifiers that the same tree has as a script, without those of the calls of
`require`. -/
theorem specifiers_exact (t : Tree) :
    ∃ given : ParseMode → List (List ℕ × SpecifierSite),
      (∀ mode, t.specifiers mode = (given mode).map Prod.snd ∧
        (given mode).Pairwise (·.1 < ·.1) ∧
        ∀ address site, (address, site) ∈ given mode ↔
          ∃ node, t.at? address = some node ∧ node.Gives mode site) ∧
      given .module = (given .script).filter fun entry => !(t.at? entry.1).any isRequire :=
  ⟨fun mode => t.sites mode,
    fun mode => ⟨(map_snd_sites mode t).symm, pairwise_sites mode t, fun _ _ => mem_sites_iff⟩,
    sites_module t⟩

/-- In `import(require("a"))` the outer specifier is the first one. -/
example :
    let call := Tree.node (.call false) 7
      [.leaf (.identifier "require") 7, .leaf (.string "a") 15]
    (Tree.node .importCall 0 [call]).specifiers .script = [.dynamic 7, .literal "a" 15] := by
  decide

end Tree

end ModuleDiscovery.Script
