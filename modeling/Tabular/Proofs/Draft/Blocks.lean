import Mathlib.Data.List.SplitBy
import Tabular.Builder
import Tabular.Draft
import Tabular.Proofs.Clause.Composition

/-! # The clause of a list of drafts

`Draft.clauseOf` by recursion on the list.  A draft before one that is joined by `AND` is a group of
its own (`clauseOf_cons_and`); before one that is joined by `OR` it becomes the first member of the
group that follows (`clauseOf_cons_or`).  The clause holds of a row exactly if every block has a draft
whose condition does (`holds_clauseOf`).

`IsCut` says what it is to cut a list of drafts in front of every draft after the first that is joined
by `AND`, without a word about how that is done; a list has exactly one cut, and `Draft.blocks` is it
(`isCut_iff_blocks`).  The same clause comes out if the drafts are gone through once with the groups so
far in hand (`collect`): a draft joined by `OR` is added to the last of them, any other opens one.  What
has been collected from the drafts so far is then the cut of these drafts, which is what every turn
keeps (`IsCut.collect`).

`Builder.clause_of_cut` puts it together: the groups of a builder's clause are the blocks of the cut,
with nothing lost, repeated or moved, and the join of the first draft has no part in it. -/

namespace Tabular

/-- The clause with one more member at the front of its first group. -/
def Clause.widen (member : Option Condition) : Clause → Clause
  | [] => [.all member]
  | group :: groups => .any (member :: group.members) :: groups

theorem Clause.length_widen (member : Option Condition) {c : Clause} (h : c ≠ []) :
    (c.widen member).length = c.length := by
  cases c with
  | nil => exact absurd rfl h
  | cons group groups => rfl

namespace Draft

theorem groupOf_eq (cs : List Condition) : groupOf cs = Group.ofMembers (cs.map some) := by
  unfold groupOf
  split
  · rfl
  · rename_i h
    match cs with
    | [] => rfl
    | [c] => exact absurd rfl (h c)
    | _ :: _ :: _ => rfl

theorem blocks_ne_nil (d : Draft) (ds : List Draft) : blocks (d :: ds) ≠ [] := by
  unfold blocks
  split
  · split <;> simp
  · simp

theorem nil_notMem_blocks (ds : List Draft) : [] ∉ blocks ds := by
  induction ds with
  | nil => simp [blocks]
  | cons d ds ih =>
      unfold blocks
      split
      · rename_i block rest e
        rw [e] at ih
        split <;> simp_all
      · simp

theorem blocks_cons_cons (d d' : Draft) (ds : List Draft) :
    ∃ block rest, block ≠ [] ∧ blocks (d' :: ds) = block :: rest ∧
      blocks (d :: d' :: ds) =
        if d'.logic = .or then (d :: block) :: rest else [d] :: block :: rest := by
  obtain ⟨block, rest, e⟩ := List.exists_cons_of_ne_nil (blocks_ne_nil d' ds)
  refine ⟨block, rest, ?_, e, ?_⟩
  · intro nil
    exact nil_notMem_blocks (d' :: ds) (by rw [e, nil]; exact List.mem_cons_self)
  · rw [blocks, e]
    simp

theorem clauseOf_singleton (d : Draft) : clauseOf [d] = [.all (some d.condition)] := rfl

theorem clauseOf_cons_and (d : Draft) {d' : Draft} (h : d'.logic = .and) (ds : List Draft) :
    clauseOf (d :: d' :: ds) = .all (some d.condition) :: clauseOf (d' :: ds) := by
  obtain ⟨block, rest, -, e, e'⟩ := blocks_cons_cons d d' ds
  rw [clauseOf, clauseOf, e', e, h]
  rfl

theorem clauseOf_cons_or (d : Draft) {d' : Draft} (h : d'.logic = .or) (ds : List Draft) :
    clauseOf (d :: d' :: ds) = Clause.widen (some d.condition) (clauseOf (d' :: ds)) := by
  obtain ⟨block, rest, ne, e, e'⟩ := blocks_cons_cons d d' ds
  obtain ⟨first, more, rfl⟩ := List.exists_cons_of_ne_nil ne
  rw [clauseOf, clauseOf, e', e, if_pos h]
  simp only [List.map_cons, Clause.widen, groupOf_eq, Group.members_ofMembers]
  rfl

/-! ### What the clause says of a row -/

theorem holds_groupOf (cs : List Condition) (row : Row) :
    (groupOf cs).holds row = cs.any fun c => c.holds row := by
  unfold groupOf
  split
  · rw [List.any_cons, List.any_nil, Bool.or_false]
    rfl
  · change (cs.map some).any (Group.memberHolds row) = _
    rw [List.any_map]
    rfl

/-- The clause of drafts holds of a row exactly if one condition of every block does. -/
theorem holds_clauseOf (ds : List Draft) (row : Row) :
    Clause.holds (clauseOf ds) row =
      (blocks ds).all fun block => block.any fun d => d.condition.holds row := by
  unfold Clause.holds clauseOf
  rw [List.all_map]
  refine congrArg _ (funext fun block => ?_)
  rw [Function.comp_apply, holds_groupOf, List.any_map]
  rfl

theorem blocks_of_or (d : Draft) {ds : List Draft} (h : ∀ e ∈ ds, e.logic = .or) :
    blocks (d :: ds) = [d :: ds] := by
  induction ds generalizing d with
  | nil => rfl
  | cons d' ds ih =>
      obtain ⟨first, others⟩ := List.forall_mem_cons.mp h
      rw [blocks, ih d' others]
      simp [first]

theorem blocks_of_and (d : Draft) {ds : List Draft} (h : ∀ e ∈ ds, e.logic = .and) :
    blocks (d :: ds) = (d :: ds).map ([·]) := by
  induction ds generalizing d with
  | nil => rfl
  | cons d' ds ih =>
      obtain ⟨first, others⟩ := List.forall_mem_cons.mp h
      rw [blocks, ih d' others]
      simp [first]

/-! ### Cuts -/

/-- A list of drafts cut in front of every draft after the first that is joined by `AND`. -/
structure IsCut (ds : List Draft) (bs : List (List Draft)) : Prop where
  flatten : bs.flatten = ds
  nonempty : ∀ block ∈ bs, block ≠ []
  within : ∀ block ∈ bs, ∀ d ∈ block.tail, d.logic = .or
  between : ∀ block ∈ bs.tail, ∀ d ∈ block.head?, d.logic = .and

variable {ds : List Draft} {bs : List (List Draft)}

/-! ### There is one cut -/

/-- Whether the block of a draft goes on with the draft after it. -/
def isContinuedBy (_ d : Draft) : Bool :=
  d.logic = .or

theorem isChain_isContinuedBy_iff {block : List Draft} :
    block.IsChain (isContinuedBy · ·) ↔ ∀ d ∈ block.tail, d.logic = .or := by
  induction block with
  | nil => simp
  | cons d block ih =>
      cases block with
      | nil => simp
      | cons e block =>
          rw [List.isChain_cons_cons, ih]
          simp [isContinuedBy]

theorem isChain_apart_iff (nonempty : ∀ block ∈ bs, block ≠ []) :
    bs.IsChain (fun a b => ∃ ha hb, isContinuedBy (a.getLast ha) (b.head hb) = false) ↔
      ∀ block ∈ bs.tail, ∀ d ∈ block.head?, d.logic = .and := by
  induction bs with
  | nil => simp
  | cons a bs ih =>
      cases bs with
      | nil => simp
      | cons b bs =>
          obtain ⟨ha, others⟩ := List.forall_mem_cons.mp nonempty
          obtain ⟨d, block, rfl⟩ := List.exists_cons_of_ne_nil (others b List.mem_cons_self)
          have apart : isContinuedBy (a.getLast ha) d = false ↔ d.logic = .and := by
            rw [isContinuedBy]
            cases d.logic <;> simp
          rw [List.isChain_cons_cons, ih others]
          simp [ha, apart]

theorem isCut_iff_splitBy : IsCut ds bs ↔ ds.splitBy isContinuedBy = bs := by
  rw [List.splitBy_eq_iff]
  constructor
  · intro h
    refine ⟨h.flatten.symm, fun mem => h.nonempty _ mem rfl, ?_, ?_⟩
    · exact fun block mem => isChain_isContinuedBy_iff.mpr (h.within block mem)
    · exact (isChain_apart_iff h.nonempty).mpr h.between
  · rintro ⟨flat, full, inner, outer⟩
    have nonempty : ∀ block ∈ bs, block ≠ [] := fun block mem nil => full (nil ▸ mem)
    refine ⟨flat.symm, nonempty, ?_, (isChain_apart_iff nonempty).mp outer⟩
    exact fun block mem => isChain_isContinuedBy_iff.mp (inner block mem)

theorem IsCut.unique {bs' : List (List Draft)} (h : IsCut ds bs) (h' : IsCut ds bs') : bs' = bs :=
  (isCut_iff_splitBy.mp h').symm.trans (isCut_iff_splitBy.mp h)

/-! ### One draft more -/

theorem isCut_nil : IsCut [] [] where
  flatten := rfl
  nonempty := nofun
  within := nofun
  between := nofun

/-- A draft joined by `OR` goes to the last block. -/
theorem IsCut.concat_or {block : List Draft} {d : Draft} (h : IsCut ds (bs ++ [block]))
    (or : d.logic = .or) : IsCut (ds ++ [d]) (bs ++ [block ++ [d]]) where
  flatten := by simp [← h.flatten]
  nonempty b mem := by
    rcases List.mem_append.mp mem with mem | mem
    · exact h.nonempty b (List.mem_append_left _ mem)
    · simp [List.mem_singleton.mp mem]
  within b mem e he := by
    rcases List.mem_append.mp mem with mem | mem
    · exact h.within b (List.mem_append_left _ mem) e he
    · obtain rfl := List.mem_singleton.mp mem
      have last : block ∈ bs ++ [block] := List.mem_append_right _ List.mem_cons_self
      rw [List.tail_append_of_ne_nil (h.nonempty _ last), List.mem_append,
        List.mem_singleton] at he
      rcases he with he | rfl
      · exact h.within block last e he
      · exact or
  between b mem e he := by
    cases bs with
    | nil => cases mem
    | cons b' bs =>
        rcases List.mem_append.mp mem with mem | mem
        · exact h.between b (List.mem_append_left _ mem) e he
        · obtain rfl := List.mem_singleton.mp mem
          have last : block ∈ (b' :: bs ++ [block]).tail :=
            List.mem_append_right _ List.mem_cons_self
          have full := h.nonempty block (List.mem_of_mem_tail last)
          rw [List.head?_append_of_ne_nil _ full] at he
          exact h.between block last e he

theorem IsCut.concat_and {d : Draft} (h : IsCut ds bs) (and : bs ≠ [] → d.logic = .and) :
    IsCut (ds ++ [d]) (bs ++ [[d]]) where
  flatten := by simp [← h.flatten]
  nonempty b mem := by
    rcases List.mem_append.mp mem with mem | mem
    · exact h.nonempty b mem
    · simp [List.mem_singleton.mp mem]
  within b mem e he := by
    rcases List.mem_append.mp mem with mem | mem
    · exact h.within b mem e he
    · rw [List.mem_singleton.mp mem] at he
      cases he
  between b mem e he := by
    cases bs with
    | nil => cases mem
    | cons b' bs =>
        rcases List.mem_append.mp mem with mem | mem
        · exact h.between b mem e he
        · rw [List.mem_singleton.mp mem, List.head?_singleton, Option.mem_some] at he
          rw [← he]
          exact and (List.cons_ne_nil _ _)

theorem IsCut.cons_or {d d' : Draft} {block : List Draft} (h : IsCut (d' :: ds) (block :: bs))
    (or : d'.logic = .or) : IsCut (d :: d' :: ds) ((d :: block) :: bs) where
  flatten := by simp [← h.flatten]
  nonempty b mem := by
    rcases List.mem_cons.mp mem with rfl | mem
    · exact List.cons_ne_nil _ _
    · exact h.nonempty b (List.mem_cons_of_mem _ mem)
  within b mem e he := by
    rcases List.mem_cons.mp mem with rfl | mem
    · obtain ⟨first, block, rfl⟩ := List.exists_cons_of_ne_nil (h.nonempty _ List.mem_cons_self)
      obtain rfl : first = d' := (List.cons.inj h.flatten).1
      rcases List.mem_cons.mp he with rfl | he
      · exact or
      · exact h.within _ List.mem_cons_self e he
    · exact h.within b (List.mem_cons_of_mem _ mem) e he
  between := h.between

theorem IsCut.cons_and {d d' : Draft} {block : List Draft} (h : IsCut (d' :: ds) (block :: bs))
    (and : d'.logic = .and) : IsCut (d :: d' :: ds) ([d] :: block :: bs) where
  flatten := by simp [← h.flatten]
  nonempty := List.forall_mem_cons.mpr ⟨List.cons_ne_nil _ _, h.nonempty⟩
  within := List.forall_mem_cons.mpr ⟨nofun, h.within⟩
  between b mem e he := by
    rcases List.mem_cons.mp mem with rfl | mem
    · obtain ⟨first, block, rfl⟩ := List.exists_cons_of_ne_nil (h.nonempty _ List.mem_cons_self)
      obtain rfl : first = d' := (List.cons.inj h.flatten).1
      rw [← Option.some.inj he]
      exact and
    · exact h.between b mem e he

theorem isCut_blocks (ds : List Draft) : IsCut ds (blocks ds) := by
  induction ds with
  | nil => exact isCut_nil
  | cons d ds ih =>
      cases ds with
      | nil => exact isCut_nil.concat_and fun ne => absurd rfl ne
      | cons d' ds =>
          obtain ⟨block, rest, -, e, e'⟩ := blocks_cons_cons d d' ds
          rw [e] at ih
          rw [e']
          cases join : d'.logic with
          | or => exact ih.cons_or join
          | and => exact ih.cons_and join

/-- The blocks of a list of drafts are its cut. -/
theorem isCut_iff_blocks : IsCut ds bs ↔ bs = blocks ds :=
  ⟨fun h => (isCut_blocks ds).unique h, fun h => h ▸ isCut_blocks ds⟩

/-! ### One pass -/

/-- One turn of the pass: the conditions collected so far, in groups, with that of the draft at a
position.  A draft after the first that is joined by `OR` goes to the last group. -/
def collect (groups : List (List Condition)) : Draft × Nat → List (List Condition)
  | (d, i) =>
    if 0 < i ∧ d.logic = .or then
      match groups.getLast? with
      | some group => groups.dropLast ++ [group ++ [d.condition]]
      | none => groups ++ [[d.condition]]
    else groups ++ [[d.condition]]

/-- The conditions of drafts that are gone through once, in groups. -/
def collected (ds : List Draft) : List (List Condition) :=
  ds.zipIdx.foldl collect []

/-- The group of collected conditions; a condition alone is taken out of its list. -/
def groupOfCollected (cs : List Condition) : Group :=
  if cs.length = 1 then .all cs.getLast? else .any (cs.map some)

/-- The clause of drafts that are gone through once. -/
def clauseInOnePass (ds : List Draft) : Clause :=
  (collected ds).map groupOfCollected

/-- If the blocks of the cut have been collected, so are those of the cut with one draft more. -/
theorem IsCut.collect (h : IsCut ds bs) (d : Draft) :
    ∃ bs', IsCut (ds ++ [d]) bs' ∧
      collect (bs.map (·.map condition)) (d, ds.length) = bs'.map (·.map condition) := by
  rw [Draft.collect]
  split
  · rename_i turn
    have ne : bs ≠ [] := by
      rintro rfl
      rw [← h.flatten] at turn
      exact absurd turn.1 (by simp)
    obtain ⟨bs, block, rfl⟩ := (List.eq_nil_or_concat' bs).resolve_left ne
    refine ⟨_, h.concat_or turn.2, ?_⟩
    simp
  · rename_i turn
    refine ⟨_, h.concat_and fun ne => ?_, ?_⟩
    · have pos : 0 < ds.length := by
        rw [List.length_pos_iff, ← h.flatten, List.flatten_ne_nil_iff]
        obtain ⟨block, bs, rfl⟩ := List.exists_cons_of_ne_nil ne
        exact ⟨block, List.mem_cons_self, h.nonempty _ List.mem_cons_self⟩
      cases join : d.logic with
      | or => exact absurd ⟨pos, join⟩ turn
      | and => rfl
    · simp

theorem exists_isCut_collected (ds : List Draft) :
    ∃ bs, IsCut ds bs ∧ collected ds = bs.map (·.map condition) := by
  induction ds using List.reverseRecOn with
  | nil => exact ⟨[], isCut_nil, rfl⟩
  | append_singleton ds d ih =>
      obtain ⟨bs, cut, e⟩ := ih
      obtain ⟨bs', cut', e'⟩ := cut.collect d
      refine ⟨bs', cut', ?_⟩
      rw [← e', ← e, collected, collected, List.zipIdx_append, List.foldl_append, Nat.zero_add]
      rfl

theorem groupOfCollected_eq (cs : List Condition) : groupOfCollected cs = groupOf cs := by
  unfold groupOfCollected groupOf
  match cs with
  | [] => rfl
  | [c] => rfl
  | c :: c' :: cs => rfl

/-- Going through the drafts once gives the clause of the list. -/
theorem clauseInOnePass_eq (ds : List Draft) : clauseInOnePass ds = clauseOf ds := by
  obtain ⟨bs, cut, e⟩ := exists_isCut_collected ds
  rw [clauseInOnePass, clauseOf, e, isCut_iff_blocks.mp cut, List.map_map]
  exact List.map_congr_left fun block _ => groupOfCollected_eq _

/-! ### Blocks and groups -/

/-- The group that a block gives: a draft alone must hold, of several drafts one must. -/
def Gives (block : List Draft) (group : Group) : Prop :=
  (∃ d, block = [d] ∧ group = .all (some d.condition)) ∨
    2 ≤ block.length ∧ group = .any (block.map fun d => some d.condition)

theorem gives_groupOf {block : List Draft} (ne : block ≠ []) :
    Gives block (groupOf (block.map condition)) := by
  match block, ne with
  | [d], _ => exact .inl ⟨d, rfl, rfl⟩
  | d :: d' :: block, _ => exact .inr ⟨by simp, by simp [groupOf]⟩

theorem Gives.members {block : List Draft} {group : Group} (h : Gives block group) :
    group.members = block.map fun d => some d.condition := by
  rcases h with ⟨d, rfl, rfl⟩ | ⟨-, rfl⟩
  · rfl
  · rfl

theorem forall₂_gives_clauseOf (ds : List Draft) : List.Forall₂ Gives (blocks ds) (clauseOf ds) := by
  rw [clauseOf, List.forall₂_map_right_iff, List.forall₂_same]
  exact fun block mem => gives_groupOf ((isCut_blocks ds).nonempty block mem)

theorem flatMap_members_clauseOf (ds : List Draft) :
    (clauseOf ds).flatMap Group.members = ds.map fun d => some d.condition := by
  have each : (clauseOf ds).map Group.members =
      (blocks ds).map (·.map fun d => some d.condition) := by
    rw [clauseOf, List.map_map]
    refine List.map_congr_left fun block mem => ?_
    exact (gives_groupOf ((isCut_blocks ds).nonempty block mem)).members
  rw [List.flatMap_def, each, ← List.map_flatten, (isCut_blocks ds).flatten]

theorem exists_gives_of_mem {group : Group} (mem : group ∈ clauseOf ds) :
    ∃ block, block ≠ [] ∧ Gives block group := by
  rw [clauseOf, List.mem_map] at mem
  obtain ⟨block, mem, rfl⟩ := mem
  have ne := (isCut_blocks ds).nonempty block mem
  exact ⟨block, ne, gives_groupOf ne⟩

/-! ### The join of the first draft -/

theorem clauseOf_rejoin (l : Logic) (ds : List Draft) :
    clauseOf (ds.modifyHead (Edit.logic l).apply) = clauseOf ds := by
  match ds with
  | [] => rfl
  | [d] => rfl
  | d :: d' :: ds =>
      rw [List.modifyHead_cons]
      cases join : d'.logic with
      | and =>
          rw [clauseOf_cons_and _ join, clauseOf_cons_and _ join]
          rfl
      | or =>
          rw [clauseOf_cons_or _ join, clauseOf_cons_or _ join]
          rfl

theorem clauseText_rejoin (l : Logic) (ds : List Draft) :
    clauseText (ds.modifyHead (Edit.logic l).apply) = clauseText ds := by
  cases ds <;> rfl

end Draft

/-- **The clause of a builder.**  Its drafts, whatever they are, have exactly one cut in front of the
drafts after the first that are joined by `AND`.  The groups of the clause are given by the blocks of
this cut, one each and in their order, and so is the clause that one pass over the drafts collects.
The members are the conditions of the drafts, each once and in their order; no group is empty, a group
of which one must hold has at least two members, and no member is a fragment without an operator.  The
clause holds of a row if every block has a draft whose condition does.  A new join of the first draft
changes neither the clause, nor of which rows it holds, nor its text. -/
theorem Builder.clause_of_cut (b : Builder) :
    (∃ bs, Draft.IsCut b.drafts bs ∧ (∀ bs', Draft.IsCut b.drafts bs' → bs' = bs) ∧
      List.Forall₂ Draft.Gives bs b.clause ∧
      ∀ row, b.holds row = true ↔ ∀ block ∈ bs, ∃ d ∈ block, d.condition.holds row = true) ∧
    Draft.clauseInOnePass b.drafts = b.clause ∧
    b.clause.flatMap Group.members = (b.drafts.map fun d => some d.condition) ∧
    (∀ group ∈ b.clause, group.members ≠ [] ∧ none ∉ group.members ∧
      ∀ ms, group = .any ms → 2 ≤ ms.length) ∧
    ∀ l : Logic, let b' := b.withDrafts (b.drafts.modifyHead (Edit.logic l).apply)
      b'.clause = b.clause ∧ b'.holds = b.holds ∧
        b'.clauseText = (b.withDrafts b.drafts).clauseText := by
  have cut := Draft.isCut_blocks b.drafts
  refine ⟨⟨_, cut, fun _ => cut.unique, Draft.forall₂_gives_clauseOf b.drafts, fun row => ?_⟩,
    Draft.clauseInOnePass_eq b.drafts, Draft.flatMap_members_clauseOf b.drafts, ?_, fun l => ?_⟩
  · rw [Builder.holds, Builder.clause, Draft.holds_clauseOf]
    simp only [List.all_eq_true, List.any_eq_true]
  · intro group mem
    obtain ⟨block, ne, gives⟩ := Draft.exists_gives_of_mem mem
    refine ⟨?_, ?_, ?_⟩
    · rw [gives.members]
      exact mt List.map_eq_nil_iff.mp ne
    · rw [gives.members]
      simp
    · rintro ms rfl
      rcases gives with ⟨_, _, e⟩ | ⟨two, e⟩
      · cases e
      · cases e
        rwa [List.length_map]
  · have same : (b.withDrafts (b.drafts.modifyHead (Edit.logic l).apply)).clause = b.clause :=
      Draft.clauseOf_rejoin l b.drafts
    refine ⟨same, ?_, Draft.clauseText_rejoin l b.drafts⟩
    funext row
    rw [Builder.holds, Builder.holds, same]

end Tabular
