import ForestQuery.Proofs.Plan.Accounting
import ForestQuery.Proofs.Select.Ledger

/-!
# The groups of filters

A group of which every child must hold holds of everything if it has no children, so a filter with
an empty group might select a whole collection. No filter has one. What nodes come to is built of
conditions by conjunctions that have children, and the alternatives that a plan or a descent puts
together are never none. So whatever selects run on a store, it is never asked for an empty group.

## Key results

- `TermNode.isConjunctive_of_predicate?`: what a node comes to has conjunctions only, none empty
- `Query.filter_cases`: the filter of a plan joins search predicates, with alternatives at the end
- `Descent.filter?_cases`: the filter of a descent is a conjunction of one or alternatives of more
- `hasFullGroups_filters`: no filter of a plan or of a descent has an empty group
- `Selector.asksFullGroups_episodes`: no find of any history of selects has an empty group
-/

namespace ForestQuery

namespace Predicate

/-- The children of a group; a condition on a field has none. -/
def children : Predicate → List Predicate
  | field _ _ => []
  | all children => children
  | any children => children

/-- Whether the predicate is a group. -/
def isGroup : Predicate → Bool
  | field _ _ => false
  | all _ => true
  | any _ => true

/-- What stands in a predicate at the end of a way down. The way says for each group at which
position it goes on. -/
def below? (p : Predicate) : List Nat → Option Predicate
  | [] => some p
  | position :: way => p.children[position]?.bind fun child => child.below? way

/-- No group has no children, at whatever depth it stands. -/
def HasFullGroups (p : Predicate) : Prop :=
  ∀ way group, p.below? way = some group → group.isGroup = true → group.children ≠ []

/-- What stands somewhere in a predicate is the predicate, or stands in one of its children. -/
theorem below?_cases {p q : Predicate} {way : List Nat} (h : p.below? way = some q) :
    (way = [] ∧ q = p) ∨
      ∃ position child rest, way = position :: rest ∧ p.children[position]? = some child ∧
        child.below? rest = some q := by
  cases way with
  | nil => exact .inl ⟨rfl, (Option.some.inj h).symm⟩
  | cons position rest =>
    obtain ⟨child, hchild, hrest⟩ := Option.bind_eq_some_iff.1 h
    exact .inr ⟨position, child, rest, rfl, hchild, hrest⟩

/-- A group with children whose groups all have children. -/
theorem hasFullGroups_of_children {p : Predicate} (hne : p.isGroup = true → p.children ≠ [])
    (hchildren : ∀ child ∈ p.children, child.HasFullGroups) : p.HasFullGroups := by
  intro way group hway hgroup
  obtain ⟨-, rfl⟩ | ⟨position, child, rest, -, hchild, hrest⟩ := below?_cases hway
  · exact hne hgroup
  · exact hchildren child (List.mem_of_getElem? hchild) rest group hrest hgroup

/-! ### Conjunctions -/

/-- A predicate that is built of conditions by conjunctions, none of them empty. -/
inductive IsConjunctive : Predicate → Prop
  /-- A condition on a field. -/
  | field (path : String) (condition : Condition) : IsConjunctive (.field path condition)
  /-- A conjunction that is not empty. -/
  | all {children : List Predicate} (hne : children ≠ [])
    (hchildren : ∀ child ∈ children, child.IsConjunctive) : IsConjunctive (.all children)

namespace IsConjunctive

theorem mem_children {p child : Predicate} (hp : p.IsConjunctive) (hchild : child ∈ p.children) :
    child.IsConjunctive := by
  cases hp with
  | field path condition => exact absurd hchild List.not_mem_nil
  | all hne hchildren => exact hchildren child hchild

/-- Whatever stands in it is built in the same way. -/
theorem of_below? {p q : Predicate} (hp : p.IsConjunctive) {way : List Nat}
    (hway : p.below? way = some q) : q.IsConjunctive := by
  induction way generalizing p with
  | nil =>
    obtain rfl := Option.some.inj hway
    exact hp
  | cons position rest ih =>
    obtain ⟨child, hchild, hrest⟩ := Option.bind_eq_some_iff.1 hway
    exact ih (hp.mem_children (List.mem_of_getElem? hchild)) hrest

theorem hasFullGroups {p : Predicate} (hp : p.IsConjunctive) : p.HasFullGroups := by
  intro way group hway hgroup
  cases hp.of_below? hway with
  | field path condition => exact nomatch hgroup
  | all hne hchildren => exact hne

/-- There are no alternatives in it. -/
theorem below?_ne_any {p : Predicate} (hp : p.IsConjunctive) (way : List Nat)
    (alternatives : List Predicate) : p.below? way ≠ some (.any alternatives) := by
  intro hway
  cases hp.of_below? hway

end IsConjunctive

/-- Predicates that are joined stay as they are built; a single one is not wrapped. -/
theorem isConjunctive_conjunction {ps : List Predicate} (hne : ps ≠ [])
    (hps : ∀ p ∈ ps, p.IsConjunctive) : (conjunction ps).IsConjunctive := by
  unfold conjunction
  split
  · next p => exact hps p (List.mem_singleton_self p)
  · exact .all hne hps

end Predicate

namespace TermNode

mutual

/-- What a node comes to is built by conjunctions that are not empty. -/
theorem isConjunctive_of_predicate? {l : Layout} : {node : TermNode} → {p : Predicate} →
    node.predicate? l = some p → p.IsConjunctive
  | leaf term, p, h => by
    rw [predicate?, Term.predicate?_eq_map, Option.map_eq_some_iff] at h
    obtain ⟨c, -, rfl⟩ := h
    exact .field c.1 c.2
  | group children, p, h => by
    rw [predicate?] at h
    split at h
    · exact nomatch h
    · next hne =>
      obtain rfl := Option.some.inj h
      exact .all hne isConjunctive_of_mem_predicates

/-- What nodes come to is built by conjunctions that are not empty. -/
theorem isConjunctive_of_mem_predicates {l : Layout} : {nodes : List TermNode} →
    ∀ p ∈ predicates l nodes, p.IsConjunctive
  | [], p, hp => absurd hp List.not_mem_nil
  | node :: rest, p, hp => by
    rw [predicates] at hp
    split at hp
    · next first h =>
      obtain rfl | hp := List.mem_cons.1 hp
      · exact isConjunctive_of_predicate? h
      · exact isConjunctive_of_mem_predicates p hp
    · exact isConjunctive_of_mem_predicates p hp

end

end TermNode

/-- What a list of nodes comes to is built by conjunctions that are not empty. -/
theorem Compilation.isConjunctive_of_mem {l : Layout} {nodes : List TermNode} {p : Predicate}
    (hp : p ∈ (ofNodes l nodes).predicates) : p.IsConjunctive := by
  rw [predicates_ofNodes] at hp
  exact TermNode.isConjunctive_of_mem_predicates p hp

/-! ### Filters of plans -/

namespace Predicate

theorem conjunction_append_singleton {ps : List Predicate} (hne : ps ≠ []) (p : Predicate) :
    conjunction (ps ++ [p]) = .all (ps ++ [p]) := by
  obtain ⟨first, rest, rfl⟩ := List.exists_cons_of_ne_nil hne
  cases rest <;> rfl

/-- Alternatives that stand last in a conjunction are the only ones, if those before them and the
alternatives themselves are built by conjunctions. -/
theorem eq_last_of_below?_eq_any {ps alternatives : List Predicate}
    (hps : ∀ p ∈ ps, p.IsConjunctive) (halternatives : ∀ p ∈ alternatives, p.IsConjunctive)
    {way : List Nat} {found : List Predicate}
    (hway : (all (ps ++ [any alternatives])).below? way = some (.any found)) :
    way = [ps.length] ∧ found = alternatives := by
  obtain ⟨-, heq⟩ | ⟨position, child, rest, rfl, hchild, hrest⟩ := below?_cases hway
  · cases heq
  rw [children, List.getElem?_append] at hchild
  split at hchild
  · -- there are none in those that stand before
    have hmem := List.mem_of_getElem? hchild
    exact absurd hrest ((hps child hmem).below?_ne_any rest found)
  · next hlast =>
    rw [List.getElem?_singleton, Option.ite_none_right_eq_some] at hchild
    obtain ⟨hzero, hchild⟩ := hchild
    obtain rfl := Option.some.inj hchild
    obtain ⟨rfl, heq⟩ | ⟨position', child', rest', -, hchild', hrest'⟩ := below?_cases hrest
    · have hposition : position = ps.length := by omega
      rw [hposition]
      exact ⟨rfl, Predicate.any.inj heq⟩
    · -- and none in the alternatives themselves
      have hmem := List.mem_of_getElem? hchild'
      exact absurd hrest' ((halternatives child' hmem).below?_ne_any rest' found)

end Predicate

/-- The filter of a plan joins the predicates of its search nodes, of which there are some, and
those of its skeleton nodes as alternatives, if there are any. -/
theorem Query.filter_cases {q : Query} {l : Layout} {plan : Plan}
    (hplan : (q.assemble l).plan? = some plan) :
    ∃ search ≠ [], (∀ p ∈ search, p.IsConjunctive) ∧
      (plan.filter = .conjunction search ∨
        ∃ alternatives ≠ [], (∀ p ∈ alternatives, p.IsConjunctive) ∧
          plan.filter = .all (search ++ [.any alternatives])) := by
  rw [assemble_eq] at hplan
  split at hplan
  · cases hplan
  · next hsearch =>
    obtain rfl := Option.some.inj hplan
    rw [Compilation.isEmpty, List.isEmpty_iff] at hsearch
    refine ⟨_, hsearch, fun p => Compilation.isConjunctive_of_mem, ?_⟩
    rw [planPredicates]
    split
    · exact .inl rfl
    · next hskeleton =>
      rw [Compilation.isEmpty, List.isEmpty_iff] at hskeleton
      refine .inr ⟨_, hskeleton, fun p => Compilation.isConjunctive_of_mem, ?_⟩
      exact Predicate.conjunction_append_singleton hsearch _

/-- No group in the filter of a plan is empty. -/
theorem Query.hasFullGroups_filter {q : Query} {l : Layout} {plan : Plan}
    (hplan : (q.assemble l).plan? = some plan) : plan.filter.HasFullGroups := by
  obtain ⟨search, hne, hsearch, hfilter | ⟨alternatives, hne', halternatives, hfilter⟩⟩ :=
    filter_cases hplan
  · rw [hfilter]
    exact (Predicate.isConjunctive_conjunction hne hsearch).hasFullGroups
  · rw [hfilter]
    have hlast : (Predicate.any alternatives).HasFullGroups :=
      Predicate.hasFullGroups_of_children (fun _ => hne') fun p hp =>
        (halternatives p hp).hasFullGroups
    apply Predicate.hasFullGroups_of_children
    · intro _
      exact List.append_ne_nil_of_left_ne_nil hne _
    · intro p hp
      obtain hp | hp := List.mem_append.1 hp
      · exact (hsearch p hp).hasFullGroups
      · rw [List.mem_singleton.1 hp]
        exact hlast

/-- Alternatives in the filter of a plan stand last in a conjunction at its top. -/
theorem Query.exists_last_of_below?_eq_any {q : Query} {l : Layout} {plan : Plan}
    (hplan : (q.assemble l).plan? = some plan) {way : List Nat} {alternatives : List Predicate}
    (hway : plan.filter.below? way = some (.any alternatives)) :
    ∃ before, plan.filter = .all (before ++ [.any alternatives]) ∧ way = [before.length] := by
  obtain ⟨search, hne, hsearch, hfilter | ⟨last, -, hlast, hfilter⟩⟩ := filter_cases hplan
  · rw [hfilter] at hway
    have hjoined := Predicate.isConjunctive_conjunction hne hsearch
    exact absurd hway (hjoined.below?_ne_any way alternatives)
  · rw [hfilter] at hway
    obtain ⟨rfl, rfl⟩ := Predicate.eq_last_of_below?_eq_any hsearch hlast hway
    exact ⟨search, hfilter, rfl⟩

/-! ### Filters of descents -/

namespace Descent

/-- The nodes of a descent that mean something. -/
def meaningful (descent : Descent) (l : Layout) (records : List Record) : List TermNode :=
  (descent l.treePrefix (records.map (·.skeleton))).filter (·.isMeaningful)

/-- The filter of a descent is a conjunction of one predicate, or has several as alternatives, one
for each of its nodes that means something. -/
theorem filter?_cases {descent : Descent} {l : Layout} {records : List Record} {filter : Predicate}
    (hfilter : descent.filter? l records = some filter) :
    ∃ ps : List Predicate, (∀ p ∈ ps, p.IsConjunctive) ∧
      ps.length = (descent.meaningful l records).length ∧
      (ps.length = 1 ∧ filter = .all ps ∨ 2 ≤ ps.length ∧ filter = .any ps) := by
  rw [filter?] at hfilter
  have hlength := congrArg List.length
    (Compilation.map_some_predicates l (descent l.treePrefix (records.map (·.skeleton))))
  rw [List.length_map, List.length_map] at hlength
  refine ⟨_, fun p => Compilation.isConjunctive_of_mem, hlength, ?_⟩
  generalize (Compilation.ofNodes l _).predicates = ps at hfilter
  unfold filterOf at hfilter
  split at hfilter
  · cases hfilter
  · exact .inl ⟨rfl, (Option.some.inj hfilter).symm⟩
  · next hnil hsingle =>
    refine .inr ⟨?_, (Option.some.inj hfilter).symm⟩
    match ps with
    | [] => exact absurd rfl hnil
    | [p] => exact absurd rfl (hsingle p)
    | _ :: _ :: _ => simp

variable {descent : Descent} {l : Layout} {records : List Record} {filter : Predicate}
  (hfilter : descent.filter? l records = some filter)

include hfilter

/-- No group in the filter of a descent is empty. -/
theorem hasFullGroups_filter? : filter.HasFullGroups := by
  obtain ⟨ps, hps, -, hshape⟩ := filter?_cases hfilter
  have hne : ps ≠ [] := by
    rintro rfl
    simp at hshape
  have hchildren : filter.children = ps := by
    obtain ⟨-, rfl⟩ | ⟨-, rfl⟩ := hshape <;> rfl
  apply Predicate.hasFullGroups_of_children
  · intro _
    rwa [hchildren]
  · intro p hp
    rw [hchildren] at hp
    exact (hps p hp).hasFullGroups

/-- The filter of a descent is a conjunction exactly if a single node means something. -/
theorem filter?_eq_all_iff :
    (∃ children, filter = .all children) ↔ (descent.meaningful l records).length = 1 := by
  obtain ⟨ps, -, hlength, ⟨hone, rfl⟩ | ⟨htwo, rfl⟩⟩ := filter?_cases hfilter
  · rw [← hlength]
    exact ⟨fun _ => hone, fun _ => ⟨ps, rfl⟩⟩
  · rw [← hlength]
    constructor
    · intro hall
      obtain ⟨children, heq⟩ := hall
      cases heq
    · omega

/-- If not a single node means something, the filter of a descent has several alternatives. -/
theorem filter?_eq_any (hmany : (descent.meaningful l records).length ≠ 1) :
    ∃ alternatives, filter = .any alternatives ∧ 2 ≤ alternatives.length := by
  obtain ⟨ps, -, hlength, ⟨hone, -⟩ | ⟨htwo, rfl⟩⟩ := filter?_cases hfilter
  · exact absurd (hlength.symm.trans hone) hmany
  · exact ⟨ps, rfl, htwo⟩

end Descent

/-- No filter has an empty group, at whatever depth: not the filter of a plan, and not that of a
descent. In the filter of a plan, alternatives stand only last in a conjunction at the top. The
filter of a descent is a conjunction if a single node of the descent means something, and otherwise
has at least two alternatives. -/
theorem hasFullGroups_filters (l : Layout) (q : Query) (descent : Descent)
    (records : List Record) :
    (∀ plan, (q.assemble l).plan? = some plan →
      plan.filter.HasFullGroups ∧
      ∀ way alternatives, plan.filter.below? way = some (.any alternatives) →
        ∃ before, plan.filter = .all (before ++ [.any alternatives]) ∧ way = [before.length]) ∧
    (∀ filter, descent.filter? l records = some filter →
      filter.HasFullGroups ∧
      ((∃ children, filter = .all children) ↔ (descent.meaningful l records).length = 1) ∧
      ((descent.meaningful l records).length ≠ 1 →
        ∃ alternatives, filter = .any alternatives ∧ 2 ≤ alternatives.length)) := by
  constructor
  · intro plan hplan
    refine ⟨Query.hasFullGroups_filter hplan, fun way alternatives hway => ?_⟩
    exact Query.exists_last_of_below?_eq_any hplan hway
  · intro filter hfilter
    refine ⟨Descent.hasFullGroups_filter? hfilter, Descent.filter?_eq_all_iff hfilter, ?_⟩
    exact Descent.filter?_eq_any hfilter

/-- A search group that keeps one of its two groups, with skeleton nodes of which one means nothing,
and a descent of which two nodes out of three mean something. -/
theorem hasFullGroups_filters_emptied_groups :
    let unknown := TermNode.leaf ⟨"x", "??", .text "y"⟩
    let known := TermNode.leaf ⟨"tag", "=", .text "folder"⟩
    let q : Query := {
      terms := {
        search := [.group [.group [unknown], .group [known, unknown]]]
        skeleton := [.group [], known] } }
    let descent := Descent.constant [.group [unknown], known, .group [known, unknown]]
    (∃ plan alternatives before, (q.assemble {}).plan? = some plan ∧ plan.filter.HasFullGroups ∧
      plan.filter = .all (before ++ [.any alternatives]) ∧ before.length = 1) ∧
    (∃ filter alternatives, descent.filter? {} [] = some filter ∧ filter.HasFullGroups ∧
      filter = .any alternatives ∧ 2 ≤ alternatives.length) := by
  intro unknown known q descent
  obtain ⟨hplan, hdescent⟩ := hasFullGroups_filters {} q descent []
  constructor
  · obtain ⟨hfull, hlast⟩ := hplan _ rfl
    obtain ⟨before, hfilter, hway⟩ := hlast [1] _ rfl
    exact ⟨_, _, before, rfl, hfull, hfilter, (List.singleton_inj.1 hway).symm⟩
  · obtain ⟨hfull, -, hmany⟩ := hdescent _ rfl
    obtain ⟨alternatives, hfilter, htwo⟩ := hmany (by decide)
    exact ⟨_, alternatives, rfl, hfull, hfilter, htwo⟩

/-! ### What a store is asked for -/

section

variable {σ : Type}

/-- No find that a session has recorded has an empty group. -/
def Session.AsksFullGroups (session : Session σ) : Prop :=
  ∀ find ∈ session.finds, find.filter.HasFullGroups

namespace Selector

/-- No find of a course has an empty group. -/
theorem Takes.hasFullGroups_finds {selector : Selector} {store : Store σ} {request : Request}
    {q : Query} {s t : σ} {course : Course}
    (htakes : selector.Takes store request q s course t) :
    ∀ find ∈ course.finds, find.filter.HasFullGroups := by
  cases htakes with
  | idle | refused => exact List.forall_mem_nil _
  | unanswered hplan => exact List.forall_mem_singleton.2 (Query.hasFullGroups_filter hplan)
  | plain hfinds | childless hfinds | malformed hfinds =>
    exact List.forall_mem_singleton.2 (Query.hasFullGroups_filter hfinds.planned)
  | cutShort hfinds hseeks | linked hfinds hseeks =>
    have hplan := Query.hasFullGroups_filter hfinds.planned
    have hdescent := Descent.hasFullGroups_filter? hseeks.filtered
    exact List.forall_mem_cons.2 ⟨hplan, List.forall_mem_singleton.2 hdescent⟩

/-- A select does not ask for an empty group. -/
theorem asksFullGroups_selectIn (selector : Selector) (store : Store σ) (request : Request)
    (q : Query) {session : Session σ} (hsession : session.AsksFullGroups) :
    (selector.selectIn store request q session).2.AsksFullGroups := by
  obtain ⟨course, t, hselect, htakes, hleaves⟩ := selector.exists_takes store request q session
  rw [hselect, Session.AsksFullGroups, hleaves.finds, List.forall_mem_append]
  exact ⟨hsession, htakes.hasFullGroups_finds⟩

theorem asksFullGroups_foldl (selector : Selector) (store : Store σ)
    {past : List Episode × Session σ} (hpast : past.2.AsksFullGroups)
    (history : List (Request × Query)) :
    (history.foldl (selector.runNext store) past).2.AsksFullGroups := by
  -- induction on the selects to come; what was asked for before them is the invariant
  induction history generalizing past with
  | nil => exact hpast
  | cons next rest ih => exact ih (selector.asksFullGroups_selectIn store next.1 next.2 hpast)

/-- Whatever selects run one after another, and whatever the store replies, it is not asked for an
empty group. -/
theorem asksFullGroups_episodes (selector : Selector) (store : Store σ) (start : σ)
    (history : List (Request × Query)) :
    (selector.episodes store start history).2.AsksFullGroups := by
  have hstart : Session.AsksFullGroups { store := start } := List.forall_mem_nil _
  exact selector.asksFullGroups_foldl store hstart history

end Selector

end

end ForestQuery
