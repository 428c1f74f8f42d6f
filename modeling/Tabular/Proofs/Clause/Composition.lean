import Tabular.Clause
import Tabular.Proofs.Clause.Separator

/-! # Clauses put together

What a body made of two bodies and a separator says.  Between two bodies `AND` puts their groups
side by side (`parse_and`), so filtering by both is filtering by one and then by the other.  `OR`
makes one group of the last group of the one and the first group of the other (`parse_or`), since
the parts between two `AND`s are cut at `OR` next. -/

namespace Tabular

/-- The group with these members: one alone must hold, of several one must. -/
def Group.ofMembers : List (Option Condition) → Group
  | [member] => .all member
  | members => .any members

theorem Group.members_ofMembers (ms : List (Option Condition)) : (ofMembers ms).members = ms := by
  unfold ofMembers
  split <;> rfl

theorem Group.ofMembers_append {ms ns : List (Option Condition)} (hm : ms ≠ []) (hn : ns ≠ []) :
    ofMembers (ms ++ ns) = .any (ms ++ ns) := by
  match ms, hm, ns, hn with
  | [_], _, _ :: _, _ => rfl
  | _ :: _ :: _, _, _, _ => rfl

namespace Clause

open Unicode

theorem cutAtKeyword_ne_nil (keyword t : Text) : cutAtKeyword keyword t ≠ [] := by
  simp [cutAtKeyword, cutStretches_ne_nil]

theorem parseGroup_eq (part : Text) :
    parseGroup part =
      .ofMembers ((cutAtKeyword Logic.or.token part).map Condition.parse?) := by
  unfold parseGroup
  split
  · rename_i e
    rw [e]
    rfl
  · rename_i h
    match e : cutAtKeyword Logic.or.token part with
    | [] => exact absurd e (cutAtKeyword_ne_nil _ _)
    | [p] => rw [eq_of_cutAtKeyword e]; rfl
    | p :: q :: rest => exact absurd e (h p q rest)

/-- The groups of two bodies with `AND` between them. -/
theorem parse_and (s : Separator .and) {a b : Text} (ha : Text.backSolid a = true)
    (hb : Text.frontSolid b = true) (h : Text.closesWith Logic.and.token a = false) :
    parse (a ++ s.text ++ b) = parse a ++ parse b := by
  rw [parse, cutAtKeyword_separator s ha hb h, List.map_append]
  rfl

theorem parseGroup_or (s : Separator .or) {p q : List Text} {t : Text}
    (h : p ++ s.stretches ++ q <:+: Text.stretches t) (hp : EndsFree Logic.or.token p) :
    parseGroup (p ++ s.stretches ++ q).flatten =
      .any ((parseGroup p.flatten).members ++ (parseGroup q.flatten).members) := by
  have whole := Text.stretches_flatten_of_isInfix h
  have left : Text.stretches p.flatten = p := by
    refine Text.stretches_flatten_of_isInfix (List.IsInfix.trans ?_ h)
    exact ⟨[], s.stretches ++ q, by simp⟩
  have right : Text.stretches q.flatten = q := by
    refine Text.stretches_flatten_of_isInfix (List.IsInfix.trans ?_ h)
    exact ⟨p ++ s.stretches, [], by simp⟩
  simp only [parseGroup_eq, Group.members_ofMembers, cutAtKeyword]
  rw [whole, left, right, cutStretches_separator s hp, List.map_append, List.map_append,
    Group.ofMembers_append]
  · simp [cutStretches_ne_nil]
  · simp [cutStretches_ne_nil]

/-- The groups of two bodies with `OR` between them. -/
theorem parse_or (s : Separator .or) {a b : Text} (ha : Text.backSolid a = true)
    (hb : Text.frontSolid b = true) (hand : Text.closesWith Logic.and.token a = false)
    (hor : Text.closesWith Logic.or.token a = false)
    (hopen : Text.opensWith Logic.and.token b = false) :
    ∃ front last first back, parse a = front ++ [last] ∧ parse b = first :: back ∧
      parse (a ++ s.text ++ b) = front ++ .any (last.members ++ first.members) :: back := by
  obtain ⟨ps, p, hp⟩ := (List.eq_nil_or_concat' _).resolve_left
    (cutStretches_ne_nil Logic.and.token (Text.stretches a))
  obtain ⟨q, qs, hq⟩ := List.exists_cons_of_ne_nil
    (cutStretches_ne_nil Logic.and.token (Text.stretches b))
  -- The part with `OR` in it is made of the last part of `a` and the first part of `b`.
  have cut : cutStretches Logic.and.token (Text.stretches (a ++ s.text ++ b)) =
      ps ++ (p ++ s.stretches ++ q) :: qs := by
    rw [s.stretches_append (.inr ha) (.inr hb),
      cutStretches_other (by decide) s (endsFree_stretches hand)
      (fun front t e => isBlank_of_stretches ha e), hp, hq]
    · change glue (ps ++ [p]) ((s.stretches ++ q) :: qs) = _
      rw [glue_concat, List.append_assoc]
    · intro word t rest e
      rw [Bool.eq_false_iff]
      intro hw
      rw [Text.opensWith_of_stretches Logic.and.token_solid e hw] at hopen
      exact absurd hopen (by decide)
  have part : p ++ s.stretches ++ q <:+: Text.stretches (a ++ s.text ++ b) := by
    have mem : p ++ s.stretches ++ q ∈
        cutStretches Logic.and.token (Text.stretches (a ++ s.text ++ b)) := by
      rw [cut]
      simp
    exact isInfix_of_mem_cutStretches mem
  have ends : EndsFree Logic.or.token p := by
    intro front t word e
    obtain ⟨more, hx⟩ := isSuffix_of_cutStretches hp
    exact endsFree_stretches hor (more ++ front) t word (by rw [← hx, e, List.append_assoc])
  refine ⟨(ps.map List.flatten).map parseGroup, parseGroup p.flatten, parseGroup q.flatten,
    (qs.map List.flatten).map parseGroup, ?_, ?_, ?_⟩
  · simp [parse, cutAtKeyword, hp]
  · simp [parse, cutAtKeyword, hq]
  · rw [← parseGroup_or s part ends, parse, cutAtKeyword, cut]
    simp

/-! ### Filtering -/

theorem body?_eq_some_iff {t body : Text} :
    body? t = some body ↔
      ∃ word gap, Text.sameLetters whereToken word = true ∧ gap ≠ [] ∧ Text.isBlank gap = true ∧
        Text.frontSolid body = true ∧ t = word ++ (gap ++ body) := by
  rw [body?]
  constructor
  · intro h
    cases found : Text.afterLetters? whereToken t with
    | none =>
        rw [found] at h
        cases h
    | some rest =>
        obtain ⟨word, same, rfl⟩ := Text.afterLetters?_eq_some_iff.mp found
        rw [found, Option.ite_none_right_eq_some, Bool.and_eq_true, Bool.not_eq_true'] at h
        obtain ⟨⟨opens, solid⟩, e⟩ := h
        obtain rfl := Option.some.inj e
        have cut : rest.takeWhile isWhiteSpace ++ Text.trimStart rest = rest :=
          List.takeWhile_append_dropWhile
        refine ⟨word, rest.takeWhile isWhiteSpace, same, ?_, ?_, ?_, by rw [cut]⟩
        · cases rest with
          | nil => cases opens
          | cons c rest =>
              have white : isWhiteSpace c = true := opens
              rw [List.takeWhile_cons, white]
              exact List.cons_ne_nil c _
        · exact List.all_eq_true.mpr fun c hc => List.mem_takeWhile_imp hc
        · refine Text.frontSolid_trimStart fun nil => ?_
          rw [Text.trimStart_eq_nil_iff.mp nil] at solid
          cases solid
  · rintro ⟨word, gap, same, ne, blank, front, rfl⟩
    have found : Text.afterLetters? whereToken (word ++ (gap ++ body)) = some (gap ++ body) :=
      Text.afterLetters?_eq_some_iff.mpr ⟨word, same, rfl⟩
    have start : Text.trimStart (gap ++ body) = body := by
      rw [Text.trimStart_append_of_isBlank blank, Text.trimStart_of_frontSolid front]
    have solid : Text.isBlank (gap ++ body) = false := by
      rw [Bool.eq_false_iff, Ne, ← Text.trimStart_eq_nil_iff, start]
      rintro rfl
      cases front
    obtain ⟨c, gap, rfl⟩ := List.exists_cons_of_ne_nil ne
    have opens : isWhiteSpace c = true := List.all_eq_true.mp blank c List.mem_cons_self
    rw [found, Option.ite_none_right_eq_some, Bool.and_eq_true, Bool.not_eq_true']
    exact ⟨⟨opens, solid⟩, congrArg some start⟩

theorem body?_where {a : Text} (ha : Text.frontSolid a = true) :
    body? ("WHERE ".toList ++ a) = some a :=
  body?_eq_some_iff.mpr ⟨whereToken, [' '], by decide, by simp, by decide, ha, rfl⟩

theorem trim_where {a : Text} (ha : Text.backSolid a = true) :
    Text.trim ("WHERE ".toList ++ a) = "WHERE ".toList ++ a := by
  refine (Text.trim_eq_self_iff (by simp)).mpr ⟨rfl, ?_⟩
  rw [Text.backSolid_append _ (Text.ne_nil_of_backSolid ha), ha]

theorem filter_where {a : Text} (front : Text.frontSolid a = true) (back : Text.backSolid a = true)
    (rows : List Row) :
    filter rows ("WHERE ".toList ++ a) = .ok (rows.filter (holds (parse a))) := by
  have ne : Text.isBlank ("WHERE ".toList ++ a) = false := rfl
  rw [filter, selects, ne, trim_where back, body?_where front]
  rfl

/-- **Bodies put together.**  Of two bodies without white space around them, `AND` puts the groups
side by side, so that filtering by both is filtering by one and then by the other; `OR` makes one
group of the two that it meets and leaves the others alone. -/
theorem parse_join (a b : Text) (ha : a ≠ []) (ha' : Text.trim a = a) (hb : b ≠ [])
    (hb' : Text.trim b = b) (hand : Text.closesWith Logic.and.token a = false) :
    (∀ s : Separator .and, parse (a ++ s.text ++ b) = parse a ++ parse b ∧
      ∀ rows, ∃ kept both, filter rows ("WHERE ".toList ++ a) = .ok kept ∧
        filter kept ("WHERE ".toList ++ b) = .ok both ∧
        filter rows ("WHERE ".toList ++ (a ++ s.text ++ b)) = .ok both) ∧
    (Text.closesWith Logic.or.token a = false → Text.opensWith Logic.and.token b = false →
      ∀ s : Separator .or, ∃ front last first back,
        parse a = front ++ [last] ∧ parse b = first :: back ∧
        parse (a ++ s.text ++ b) = front ++ .any (last.members ++ first.members) :: back) := by
  obtain ⟨afront, aback⟩ := (Text.trim_eq_self_iff ha).mp ha'
  obtain ⟨bfront, bback⟩ := (Text.trim_eq_self_iff hb).mp hb'
  refine ⟨fun s => ?_, fun hor hopen s => parse_or s aback bfront hand hor hopen⟩
  have e := parse_and s aback bfront hand
  refine ⟨e, fun rows => ⟨_, _, filter_where afront aback rows, filter_where bfront bback _, ?_⟩⟩
  have front : Text.frontSolid (a ++ s.text ++ b) = true := by
    rw [List.append_assoc]
    exact Text.frontSolid_append afront _
  have back : Text.backSolid (a ++ s.text ++ b) = true := by
    rw [Text.backSolid_append _ hb, bback]
  have both : holds (parse a ++ parse b) =
      fun row => holds (parse b) row && holds (parse a) row := by
    funext row
    rw [holds_append, Bool.and_comm]
  rw [filter_where front back, e, List.filter_filter, both]

theorem parse_join_two_groups :
    let a := "A = '1' OR B = '2'".toList
    let b := "C IS NULL\tor D > 4".toList
    (a ≠ [] ∧ Text.trim a = a ∧ b ≠ [] ∧ Text.trim b = b ∧
      Text.closesWith Logic.and.token a = false ∧ Text.closesWith Logic.or.token a = false ∧
      Text.opensWith Logic.and.token b = false) ∧
    parse (a ++ "\t aNd\n".toList ++ b) = parse a ++ parse b ∧
    ∃ front last first back, parse a = front ++ [last] ∧ parse b = first :: back ∧
      parse (a ++ " OR ".toList ++ b) = front ++ .any (last.members ++ first.members) :: back := by
  intro a b
  have join := parse_join a b (by decide) (by decide) (by decide) (by decide) (by decide)
  refine ⟨by decide, ?_, join.2 (by decide) (by decide) (.plain .or)⟩
  exact (join.1 ⟨"\t ".toList, "aNd".toList, "\n".toList, by decide, by decide, by decide,
    by decide, by decide⟩).1

end Clause

end Tabular
