import Mathlib.Data.Finset.Insert
import Matcher.Matching.Allocation
import Matcher.Matching.ConfidenceScorer

/-!
# One-to-one matching

For each rule in turn the engine gives every free left candidate the first free
right candidate that the rule accepts with a sufficient score.  Candidates used
by earlier rules and those used within the current rule are kept in separate
sets.
-/

namespace Matcher.Matching

open Foundation

variable {rules : List RuleDefinition} {left right : List CandidateTransaction}
  {rule : RuleDefinition} {leftTxn : CandidateTransaction}
  {usedRight : Finset UUID} {rightTxn : CandidateTransaction} {proposals : List MatchProposal}
  {localUsedRight usedLeft : Finset UUID} {id : UUID} {score : ℤ}

def errNilRuleConfig : GoError :=
  .sentinel ⟨"ErrNilRuleConfig", "rule config is nil"⟩

def errEngineIsNil : GoError :=
  .sentinel ⟨"ErrEngineIsNil", "engine is nil"⟩

def defaultMaxCandidates : ℤ := 5000

def minMatchScore : ℤ := 60

structure Engine where
  maxCandidates : ℤ
deriving DecidableEq, Repr

def newEngine : Engine := ⟨defaultMaxCandidates⟩

def Engine.maxAllowed (engine : Engine) : ℤ :=
  if engine.maxCandidates ≤ 0 then defaultMaxCandidates
  else engine.maxCandidates

def Engine.checkSize (engine : Option Engine) (rules : List RuleDefinition)
    (left right : List CandidateTransaction) : Except GoError Unit :=
  match engine with
  | none => .error errEngineIsNil
  | some engine =>
    if engine.maxAllowed < rules.length ∨ engine.maxAllowed < left.length ∨
        engine.maxAllowed < right.length then
      .error errCandidateSetTooLarge
    else .ok ()

structure Engine.Admits (engine : Engine) (rules : List RuleDefinition)
    (left right : List CandidateTransaction) : Prop where
  rules : (rules.length : ℤ) ≤ engine.maxAllowed
  left : (left.length : ℤ) ≤ engine.maxAllowed
  right : (right.length : ℤ) ≤ engine.maxAllowed

theorem Engine.checkSize_eq_ok {engine : Engine} :
    Engine.checkSize (some engine) rules left right = .ok () ↔ engine.Admits rules left right := by
  simp only [Engine.checkSize]
  constructor
  · intro h
    obtain ⟨hsizes, -⟩ := guard_eq_ok.mp h
    simp only [not_or, not_lt] at hsizes
    exact ⟨hsizes.1, hsizes.2.1, hsizes.2.2⟩
  · rintro ⟨hrules, hleft, hright⟩
    refine guard_eq_ok.mpr ⟨?_, rfl⟩
    simp only [not_or, not_lt]
    exact ⟨hrules, hleft, hright⟩

theorem Engine.checkSize_eq_error {engine : Engine} (h : ¬ engine.Admits rules left right) :
    Engine.checkSize (some engine) rules left right = .error errCandidateSetTooLarge := by
  apply if_pos
  by_contra hsizes
  simp only [not_or, not_lt] at hsizes
  exact h ⟨hsizes.1, hsizes.2.1, hsizes.2.2⟩

/-- The verdict of a rule on a pair; a rejected pair scores zero. -/
def evalByType (rule : RuleDefinition) (left right : CandidateTransaction) :
    Except GoError (Bool × ℤ) :=
  match rule.exact, rule.tolerance, rule.dateLag with
  | some cfg, _, _ => do
      let matched ← exactMatch left right (some cfg)
      return (matched,
        if matched then scoreExactConfidence (some cfg) left right else 0)
  | none, some cfg, _ => do
      let matched ← toleranceMatch left right (some cfg)
      return (matched,
        if matched then scoreToleranceConfidence (some cfg) left right else 0)
  | none, none, some cfg => do
      let matched ← dateLagMatch left right (some cfg)
      return (matched,
        if matched then scoreDateLagConfidence (some cfg) left right else 0)
  | none, none, none => .error errNilRuleConfig

def Accepts (rule : RuleDefinition) (left right : CandidateTransaction) (score : ℤ) : Prop :=
  evalByType rule left right = .ok (true, score) ∧ minMatchScore ≤ score

def markUsed (ids : List UUID) (used : Finset UUID) : Finset UUID :=
  ids.foldl (fun used id => insert id used) used

@[simp] theorem mem_markUsed {ids : List UUID} {used : Finset UUID} :
    id ∈ markUsed ids used ↔ id ∈ ids ∨ id ∈ used := by
  induction ids generalizing used with
  | nil => simp [markUsed]
  | cons first rest ih =>
    change id ∈ markUsed rest (insert first used) ↔ _
    rw [ih, Finset.mem_insert, List.mem_cons]
    tauto

/-! ## One rule -/

def scanRight (rule : RuleDefinition) (leftTxn : CandidateTransaction)
    (usedRight localUsedRight : Finset UUID) :
    List CandidateTransaction → Except GoError (Option (CandidateTransaction × ℤ))
  | [] => .ok none
  | rightTxn :: rest =>
    if rightTxn.id ∈ usedRight then
      scanRight rule leftTxn usedRight localUsedRight rest
    else if rightTxn.id ∈ localUsedRight then
      scanRight rule leftTxn usedRight localUsedRight rest
    else
      match evalByType rule leftTxn rightTxn with
      | .error failure => .error failure
      | .ok (matched, score) =>
        if !matched || score < minMatchScore then
          scanRight rule leftTxn usedRight localUsedRight rest
        else .ok (some (rightTxn, score))

structure RuleMatches where
  proposals : List MatchProposal
  localUsedLeft : Finset UUID
  localUsedRight : Finset UUID

def directPair (rule : RuleDefinition) (leftTxn rightTxn : CandidateTransaction) (score : ℤ) :
    MatchProposal where
  ruleID := rule.id
  leftIDs := [leftTxn.id]
  rightIDs := [rightTxn.id]
  leftAllocations := []
  rightAllocations := []
  score := score
  mode := .oneToOne

def matchLeft (rule : RuleDefinition) (right : List CandidateTransaction)
    (usedLeft usedRight : Finset UUID) (state : RuleMatches) (leftTxn : CandidateTransaction) :
    Except GoError RuleMatches :=
  if leftTxn.id ∈ usedLeft then .ok state
  else if leftTxn.id ∈ state.localUsedLeft then .ok state
  else
    match scanRight rule leftTxn usedRight state.localUsedRight right with
    | .error failure => .error failure
    | .ok none => .ok state
    | .ok (some (rightTxn, score)) =>
      .ok ⟨state.proposals ++ [directPair rule leftTxn rightTxn score],
        insert leftTxn.id state.localUsedLeft,
        insert rightTxn.id state.localUsedRight⟩

def findAll1v1Matches (rule : RuleDefinition) (left right : List CandidateTransaction)
    (usedLeft usedRight : Finset UUID) :
    Except GoError (List MatchProposal) := do
  let final ← left.foldlM (matchLeft rule right usedLeft usedRight) ⟨[], ∅, ∅⟩
  return final.proposals

/-! ## All rules -/

structure Matches where
  out : List MatchProposal
  usedLeft : Finset UUID
  usedRight : Finset UUID

def leftIDsOf (proposals : List MatchProposal) : List UUID :=
  proposals.flatMap (·.leftIDs)

def rightIDsOf (proposals : List MatchProposal) : List UUID :=
  proposals.flatMap (·.rightIDs)

def applyRule (left right : List CandidateTransaction) (state : Matches) (rule : RuleDefinition) :
    Except GoError Matches := do
  let proposals ←
    findAll1v1Matches rule left right state.usedLeft state.usedRight
  return ⟨state.out ++ proposals, markUsed (leftIDsOf proposals) state.usedLeft,
    markUsed (rightIDsOf proposals) state.usedRight⟩

def execute1v1 (engine : Option Engine) (rules : List RuleDefinition)
    (left right : List CandidateTransaction) :
    Except GoError (List MatchProposal) := do
  Engine.checkSize engine rules left right
  let sortedLeft := sortTransactions left
  let sortedRight := sortTransactions right
  let final ←
    (sortRules rules).foldlM (applyRule sortedLeft sortedRight) ⟨[], ∅, ∅⟩
  return final.out

/-! ## Soundness and maximality -/

@[simp] theorem leftIDsOf_append (first second : List MatchProposal) :
    leftIDsOf (first ++ second) = leftIDsOf first ++ leftIDsOf second := by
  simp [leftIDsOf]

@[simp] theorem rightIDsOf_append (first second : List MatchProposal) :
    rightIDsOf (first ++ second) = rightIDsOf first ++ rightIDsOf second := by
  simp [rightIDsOf]

@[simp] theorem leftIDsOf_directPair (rule : RuleDefinition)
    (leftTxn rightTxn : CandidateTransaction) (score : ℤ) :
    leftIDsOf [directPair rule leftTxn rightTxn score] = [leftTxn.id] := rfl

@[simp] theorem rightIDsOf_directPair (rule : RuleDefinition)
    (leftTxn rightTxn : CandidateTransaction) (score : ℤ) :
    rightIDsOf [directPair rule leftTxn rightTxn score] = [rightTxn.id] := rfl

theorem scanRight_eq_some
    (h : scanRight rule leftTxn usedRight localUsedRight right = .ok (some (rightTxn, score))) :
    rightTxn ∈ right ∧ rightTxn.id ∉ usedRight ∧
      rightTxn.id ∉ localUsedRight ∧ Accepts rule leftTxn rightTxn score := by
  induction right with
  | nil => simp [scanRight] at h
  | cons candidate rest ih =>
    have hskip : scanRight rule leftTxn usedRight localUsedRight rest =
        .ok (some (rightTxn, score)) →
        rightTxn ∈ candidate :: rest ∧ rightTxn.id ∉ usedRight ∧
          rightTxn.id ∉ localUsedRight ∧ Accepts rule leftTxn rightTxn score := by
      intro hrest
      obtain ⟨hmem, hfree⟩ := ih hrest
      exact ⟨List.mem_cons_of_mem candidate hmem, hfree⟩
    rw [scanRight] at h
    split_ifs at h with hused hlocal
    · exact hskip h
    · exact hskip h
    cases heval : evalByType rule leftTxn candidate with
    | error =>
      rw [heval] at h
      cases h
    | ok verdict =>
      obtain ⟨matched, found⟩ := verdict
      rw [heval] at h
      dsimp only at h
      split_ifs at h with hreject
      · exact hskip h
      · simp only [Except.ok.injEq, Option.some.injEq, Prod.mk.injEq] at h
        obtain ⟨rfl, rfl⟩ := h
        simp only [Bool.or_eq_true, Bool.not_eq_true', decide_eq_true_eq,
          not_or, Bool.not_eq_false, not_lt] at hreject
        obtain ⟨rfl, hscore⟩ := hreject
        exact ⟨List.mem_cons_self, hused, hlocal, heval, hscore⟩

theorem scanRight_eq_none (h : scanRight rule leftTxn usedRight localUsedRight right = .ok none) :
    ∀ rightTxn ∈ right, rightTxn.id ∉ usedRight →
      rightTxn.id ∉ localUsedRight → ∀ score, ¬ Accepts rule leftTxn rightTxn score := by
  induction right with
  | nil => simp
  | cons candidate rest ih =>
    have hskip : scanRight rule leftTxn usedRight localUsedRight rest =
        .ok none →
        (candidate.id ∉ usedRight → candidate.id ∉ localUsedRight →
          ∀ score, ¬ Accepts rule leftTxn candidate score) →
        ∀ rightTxn ∈ candidate :: rest, rightTxn.id ∉ usedRight →
          rightTxn.id ∉ localUsedRight → ∀ score, ¬ Accepts rule leftTxn rightTxn score := by
      intro hrest hcandidate rightTxn hmem
      rcases List.mem_cons.mp hmem with rfl | hmem
      · exact hcandidate
      · exact ih hrest rightTxn hmem
    rw [scanRight] at h
    split_ifs at h with hused hlocal
    · exact hskip h fun hfree => absurd hused hfree
    · exact hskip h fun _ hfree => absurd hlocal hfree
    cases heval : evalByType rule leftTxn candidate with
    | error =>
      rw [heval] at h
      cases h
    | ok verdict =>
      obtain ⟨matched, found⟩ := verdict
      rw [heval] at h
      dsimp only at h
      split_ifs at h with hreject
      · refine hskip h ?_
        rintro - - score ⟨haccept, hscore⟩
        rw [heval] at haccept
        cases haccept
        simp only [Bool.not_true, Bool.false_or, decide_eq_true_eq] at hreject
        exact absurd hscore (not_le.mpr hreject)
      · simp at h

/--
The proposals match candidates outside the used sets one to one, and no rule of
the list accepts a further pair of candidates that are still free.
-/
structure MaximalMatching (rules : List RuleDefinition) (left right : List CandidateTransaction)
    (usedLeft usedRight : Finset UUID) (proposals : List MatchProposal) : Prop where
  sound : ∀ proposal ∈ proposals, ∃ rule ∈ rules, ∃ leftTxn ∈ left,
    ∃ rightTxn ∈ right, ∃ score,
      proposal = directPair rule leftTxn rightTxn score ∧
        Accepts rule leftTxn rightTxn score ∧ leftTxn.id ∉ usedLeft ∧ rightTxn.id ∉ usedRight
  leftNodup : (leftIDsOf proposals).Nodup
  rightNodup : (rightIDsOf proposals).Nodup
  maximal : ∀ rule ∈ rules, ∀ leftTxn ∈ left, leftTxn.id ∉ usedLeft →
    leftTxn.id ∉ leftIDsOf proposals → ∀ rightTxn ∈ right,
      rightTxn.id ∉ usedRight → rightTxn.id ∉ rightIDsOf proposals →
        ∀ score, ¬ Accepts rule leftTxn rightTxn score

namespace MaximalMatching

variable {rules : List RuleDefinition} {rule : RuleDefinition}
  {left right : List CandidateTransaction} {usedLeft usedRight : Finset UUID}
  {proposals : List MatchProposal}

section

variable (h : MaximalMatching rules left right usedLeft usedRight proposals)

include h

theorem leftIDs_free (hid : id ∈ leftIDsOf proposals) : id ∉ usedLeft := by
  obtain ⟨proposal, hproposal, hmem⟩ := List.mem_flatMap.mp hid
  obtain ⟨_, _, leftTxn, _, _, _, _, rfl, _, hfree, _⟩ := h.sound proposal hproposal
  rw [List.mem_singleton.mp hmem]
  exact hfree

theorem rightIDs_free (hid : id ∈ rightIDsOf proposals) : id ∉ usedRight := by
  obtain ⟨proposal, hproposal, hmem⟩ := List.mem_flatMap.mp hid
  obtain ⟨_, _, _, _, rightTxn, _, _, rfl, _, _, hfree⟩ := h.sound proposal hproposal
  rw [List.mem_singleton.mp hmem]
  exact hfree

end

theorem nil (rules : List RuleDefinition) (right : List CandidateTransaction)
    (usedLeft usedRight : Finset UUID) :
    MaximalMatching rules [] right usedLeft usedRight [] where
  sound := by simp
  leftNodup := by simp [leftIDsOf]
  rightNodup := by simp [rightIDsOf]
  maximal := by simp

section

variable (h : MaximalMatching [rule] left right usedLeft usedRight proposals)

include h

theorem skip (hskip : leftTxn.id ∉ usedLeft → leftTxn.id ∉ leftIDsOf proposals →
      ∀ rightTxn ∈ right, rightTxn.id ∉ usedRight →
        rightTxn.id ∉ rightIDsOf proposals → ∀ score, ¬ Accepts rule leftTxn rightTxn score) :
    MaximalMatching [rule] (left ++ [leftTxn]) right usedLeft usedRight proposals where
  sound := by
    intro proposal hproposal
    obtain ⟨source, hsource, found, hfound, hpair⟩ := h.sound proposal hproposal
    exact ⟨source, hsource, found, List.mem_append_left _ hfound, hpair⟩
  leftNodup := h.leftNodup
  rightNodup := h.rightNodup
  maximal := by
    intro other hother found hfound
    rw [List.mem_singleton] at hother
    subst hother
    rcases List.mem_append.mp hfound with hold | hnew
    · exact h.maximal other (by simp) found hold
    · rw [List.mem_singleton.mp hnew]
      exact hskip

theorem extend (hleft : leftTxn.id ∉ usedLeft) (hleftNew : leftTxn.id ∉ leftIDsOf proposals)
    (hmem : rightTxn ∈ right) (hright : rightTxn.id ∉ usedRight)
    (hrightNew : rightTxn.id ∉ rightIDsOf proposals)
    (haccepts : Accepts rule leftTxn rightTxn score) :
    MaximalMatching [rule] (left ++ [leftTxn]) right usedLeft usedRight
      (proposals ++ [directPair rule leftTxn rightTxn score]) where
  sound := by
    intro proposal hproposal
    rcases List.mem_append.mp hproposal with hold | hnew
    · obtain ⟨source, hsource, found, hfound, hpair⟩ := h.sound proposal hold
      exact ⟨source, hsource, found, List.mem_append_left _ hfound, hpair⟩
    · rw [List.mem_singleton.mp hnew]
      exact ⟨rule, by simp, leftTxn, by simp, rightTxn, hmem, score, rfl, haccepts, hleft, hright⟩
  leftNodup := by
    rw [leftIDsOf_append, leftIDsOf_directPair, ← List.concat_eq_append]
    exact .concat hleftNew h.leftNodup
  rightNodup := by
    rw [rightIDsOf_append, rightIDsOf_directPair, ← List.concat_eq_append]
    exact .concat hrightNew h.rightNodup
  maximal := by
    intro other hother found hfound hfree hunmatched candidate hcandidate
      hcandidateFree hcandidateUnmatched
    rw [leftIDsOf_append, List.mem_append, not_or] at hunmatched
    rw [rightIDsOf_append, List.mem_append, not_or] at hcandidateUnmatched
    rcases List.mem_append.mp hfound with hold | hnew
    · exact h.maximal other hother found hold hfree hunmatched.1 candidate
        hcandidate hcandidateFree hcandidateUnmatched.1
    · rw [List.mem_singleton.mp hnew] at hunmatched
      simp at hunmatched

end

theorem append {more : List MatchProposal} (h : MaximalMatching rules left right ∅ ∅ proposals)
    (hleft : ∀ id, id ∈ usedLeft ↔ id ∈ leftIDsOf proposals)
    (hright : ∀ id, id ∈ usedRight ↔ id ∈ rightIDsOf proposals)
    (hmore : MaximalMatching [rule] left right usedLeft usedRight more) :
    MaximalMatching (rules ++ [rule]) left right ∅ ∅ (proposals ++ more) where
  sound := by
    intro proposal hproposal
    rcases List.mem_append.mp hproposal with hold | hnew
    · obtain ⟨source, hsource, hpair⟩ := h.sound proposal hold
      exact ⟨source, List.mem_append_left _ hsource, hpair⟩
    · obtain ⟨source, hsource, leftTxn, hleftTxn, rightTxn, hrightTxn, score,
        hpair, haccepts, -⟩ := hmore.sound proposal hnew
      exact ⟨source, List.mem_append_right _ hsource, leftTxn, hleftTxn,
        rightTxn, hrightTxn, score, hpair, haccepts, by simp, by simp⟩
  leftNodup := by
    rw [leftIDsOf_append]
    exact List.nodup_append.mpr ⟨h.leftNodup, hmore.leftNodup, by
      rintro id hid other hother rfl
      exact hmore.leftIDs_free hother ((hleft id).mpr hid)⟩
  rightNodup := by
    rw [rightIDsOf_append]
    exact List.nodup_append.mpr ⟨h.rightNodup, hmore.rightNodup, by
      rintro id hid other hother rfl
      exact hmore.rightIDs_free hother ((hright id).mpr hid)⟩
  maximal := by
    intro source hsource leftTxn hleftTxn _ hleftFree rightTxn hrightTxn _ hrightFree
    rw [leftIDsOf_append, List.mem_append, not_or] at hleftFree
    rw [rightIDsOf_append, List.mem_append, not_or] at hrightFree
    rcases List.mem_append.mp hsource with hold | hnew
    · exact h.maximal source hold leftTxn hleftTxn (by simp) hleftFree.1
        rightTxn hrightTxn (by simp) hrightFree.1
    · refine hmore.maximal source hnew leftTxn hleftTxn ?_ hleftFree.2
        rightTxn hrightTxn ?_ hrightFree.2
      · rw [hleft]
        exact hleftFree.1
      · rw [hright]
        exact hrightFree.1

end MaximalMatching

theorem matchLeft_matching {done : List CandidateTransaction} {state state' : RuleMatches}
    (hmatching : MaximalMatching [rule] done right usedLeft usedRight state.proposals)
    (hleft : ∀ id, id ∈ state.localUsedLeft ↔ id ∈ leftIDsOf state.proposals)
    (hright : ∀ id, id ∈ state.localUsedRight ↔ id ∈ rightIDsOf state.proposals)
    (h : matchLeft rule right usedLeft usedRight state leftTxn = .ok state') :
    MaximalMatching [rule] (done ++ [leftTxn]) right usedLeft usedRight state'.proposals ∧
      (∀ id, id ∈ state'.localUsedLeft ↔ id ∈ leftIDsOf state'.proposals) ∧
      (∀ id, id ∈ state'.localUsedRight ↔ id ∈ rightIDsOf state'.proposals) := by
  unfold matchLeft at h
  split_ifs at h with hused hlocal
  · cases h
    exact ⟨hmatching.skip fun hfree => absurd hused hfree, hleft, hright⟩
  · cases h
    exact ⟨hmatching.skip fun _ hfree => absurd ((hleft _).mp hlocal) hfree, hleft, hright⟩
  cases hscan : scanRight rule leftTxn usedRight state.localUsedRight right with
  | error =>
    rw [hscan] at h
    cases h
  | ok outcome =>
    rw [hscan] at h
    cases outcome with
    | none =>
      cases h
      refine ⟨hmatching.skip ?_, hleft, hright⟩
      intro _ _ rightTxn hmem hfree hunmatched
      exact scanRight_eq_none hscan rightTxn hmem hfree fun hin => hunmatched ((hright _).mp hin)
    | some found =>
      obtain ⟨rightTxn, score⟩ := found
      cases h
      obtain ⟨hmem, hfree, hlocalFree, haccepts⟩ := scanRight_eq_some hscan
      refine ⟨hmatching.extend hused (fun hin => hlocal ((hleft _).mpr hin))
        hmem hfree (fun hin => hlocalFree ((hright _).mpr hin)) haccepts,
        ?_, ?_⟩
      · intro id
        simp only [Finset.mem_insert, hleft, leftIDsOf_append,
          leftIDsOf_directPair, List.mem_append, List.mem_singleton]
        exact or_comm
      · intro id
        simp only [Finset.mem_insert, hright, rightIDsOf_append,
          rightIDsOf_directPair, List.mem_append, List.mem_singleton]
        exact or_comm

theorem findAll1v1Matches_matching
    (h : findAll1v1Matches rule left right usedLeft usedRight = .ok proposals) :
    MaximalMatching [rule] left right usedLeft usedRight proposals := by
  obtain ⟨final, hloop, hfinal⟩ := bind_eq_ok.mp h
  cases hfinal
  refine (foldlM_invariant (fun done state =>
    MaximalMatching [rule] done right usedLeft usedRight state.proposals ∧
      (∀ id, id ∈ state.localUsedLeft ↔ id ∈ leftIDsOf state.proposals) ∧
      (∀ id, id ∈ state.localUsedRight ↔ id ∈ rightIDsOf state.proposals))
    ?_ ?_ hloop).1
  · exact ⟨MaximalMatching.nil _ _ _ _, by simp [leftIDsOf], by simp [rightIDsOf]⟩
  · rintro done leftTxn state state' - ⟨hmatching, hleft, hright⟩ hstep
    exact matchLeft_matching hmatching hleft hright hstep

theorem execute1v1_matching {engine : Option Engine}
    (h : execute1v1 engine rules left right = .ok proposals) :
    MaximalMatching (sortRules rules) (sortTransactions left)
      (sortTransactions right) ∅ ∅ proposals := by
  obtain ⟨⟨⟩, -, h⟩ := bind_eq_ok.mp h
  obtain ⟨final, hloop, hfinal⟩ := bind_eq_ok.mp h
  cases hfinal
  refine (foldlM_invariant (fun done state =>
    MaximalMatching done (sortTransactions left) (sortTransactions right) ∅ ∅ state.out ∧
      (∀ id, id ∈ state.usedLeft ↔ id ∈ leftIDsOf state.out) ∧
      (∀ id, id ∈ state.usedRight ↔ id ∈ rightIDsOf state.out))
    ?_ ?_ hloop).1
  · refine ⟨⟨by simp, ?_, ?_, by simp⟩, ?_, ?_⟩ <;>
      simp [leftIDsOf, rightIDsOf]
  · rintro done rule state state' - ⟨hmatching, hleft, hright⟩ hstep
    obtain ⟨found, hfound, hresult⟩ := bind_eq_ok.mp hstep
    cases hresult
    refine ⟨hmatching.append hleft hright (findAll1v1Matches_matching hfound), ?_, ?_⟩
    · intro id
      rw [mem_markUsed, hleft, leftIDsOf_append, List.mem_append, or_comm]
    · intro id
      rw [mem_markUsed, hright, rightIDsOf_append, List.mem_append, or_comm]

/--
A one-to-one execution that returns proposes a sound and maximal matching of the
given candidates.
-/
theorem execute1v1_sound_and_maximal {engine : Option Engine} {rules : List RuleDefinition}
    {left right : List CandidateTransaction} {proposals : List MatchProposal}
    (h : execute1v1 engine rules left right = .ok proposals) :
    (∀ proposal ∈ proposals, ∃ rule ∈ rules, ∃ leftTxn ∈ left,
      ∃ rightTxn ∈ right, proposal.ruleID = rule.id ∧
        proposal.leftIDs = [leftTxn.id] ∧ proposal.rightIDs = [rightTxn.id] ∧
        evalByType rule leftTxn rightTxn = .ok (true, proposal.score) ∧
        60 ≤ proposal.score) ∧
    (proposals.flatMap (·.leftIDs)).Nodup ∧
    (proposals.flatMap (·.rightIDs)).Nodup ∧
    (∀ leftTxn ∈ left, ∀ rightTxn ∈ right, (∀ proposal ∈ proposals, leftTxn.id ∉ proposal.leftIDs) →
      (∀ proposal ∈ proposals, rightTxn.id ∉ proposal.rightIDs) →
      ∀ rule ∈ rules, ∀ score,
        evalByType rule leftTxn rightTxn = .ok (true, score) → score < 60) := by
  have hmatching := execute1v1_matching h
  refine ⟨?_, hmatching.leftNodup, hmatching.rightNodup, ?_⟩
  · intro proposal hproposal
    obtain ⟨rule, hrule, leftTxn, hleft, rightTxn, hright, score, rfl,
      ⟨heval, hscore⟩, -⟩ := hmatching.sound proposal hproposal
    exact ⟨rule, mem_stableSort.mp hrule, leftTxn, mem_stableSort.mp hleft,
      rightTxn, mem_stableSort.mp hright, rfl, rfl, rfl, heval, hscore⟩
  · intro leftTxn hleft rightTxn hright hleftFree hrightFree rule hrule score heval
    by_contra hscore
    refine hmatching.maximal rule (mem_stableSort.mpr hrule) leftTxn
      (mem_stableSort.mpr hleft) (by simp) ?_ rightTxn
      (mem_stableSort.mpr hright) (by simp) ?_ score
      ⟨heval, not_lt.mp hscore⟩
    · intro hmem
      obtain ⟨proposal, hproposal, hid⟩ := List.mem_flatMap.mp hmem
      exact hleftFree proposal hproposal hid
    · intro hmem
      obtain ⟨proposal, hproposal, hid⟩ := List.mem_flatMap.mp hmem
      exact hrightFree proposal hproposal hid

def amountRule (id : UUID) (allocation : Option AllocationConfig) : RuleDefinition where
  id := id
  priority := 1
  type := .exact
  exact := some {
    matchAmount := true
    matchCurrency := true
    matchDate := false
    datePrecision := .day
    matchReference := false
    caseInsensitive := false
    referenceMustSet := false
    matchBaseAmount := false
    matchBaseCurrency := false
    matchScore := 100
    matchBaseScore := 100 }
  tolerance := none
  dateLag := none
  allocation := allocation

theorem execute1v1_sound_and_maximal_pair :
    let proposals := [directPair (amountRule ⟨9⟩ none)
      (plainCandidate ⟨1⟩ 100) (plainCandidate ⟨3⟩ 100) 100]
    execute1v1 (some newEngine) [amountRule ⟨9⟩ none] [plainCandidate ⟨1⟩ 100]
        [plainCandidate ⟨2⟩ 90, plainCandidate ⟨3⟩ 100] = .ok proposals ∧
      (proposals.flatMap (·.rightIDs)).Nodup := by
  intro proposals
  have h : execute1v1 (some newEngine) [amountRule ⟨9⟩ none] [plainCandidate ⟨1⟩ 100]
      [plainCandidate ⟨2⟩ 90, plainCandidate ⟨3⟩ 100] = .ok proposals := by
    decide +kernel
  exact ⟨h, (execute1v1_sound_and_maximal h).2.2.1⟩

/-- A second execution over what the first one left unmatched proposes nothing. -/
theorem leftovers_give_no_proposal {engine later : Option Engine}
    {left' right' : List CandidateTransaction} {more : List MatchProposal}
    (hfirst : execute1v1 engine rules left right = .ok proposals)
    (hlater : execute1v1 later rules left' right' = .ok more)
    (hleft : ∀ leftTxn ∈ left', leftTxn ∈ left ∧ leftTxn.id ∉ leftIDsOf proposals)
    (hright : ∀ rightTxn ∈ right', rightTxn ∈ right ∧ rightTxn.id ∉ rightIDsOf proposals) :
    more = [] := by
  refine List.eq_nil_iff_forall_not_mem.mpr fun proposal hproposal => ?_
  obtain ⟨rule, hrule, leftTxn, hmem, rightTxn, hmem', score, -, haccepts, -⟩ :=
    (execute1v1_matching hlater).sound proposal hproposal
  obtain ⟨hold, hfree⟩ := hleft leftTxn (mem_stableSort.mp hmem)
  obtain ⟨hold', hfree'⟩ := hright rightTxn (mem_stableSort.mp hmem')
  exact (execute1v1_matching hfirst).maximal rule hrule leftTxn (mem_stableSort.mpr hold)
    (by simp) hfree rightTxn (mem_stableSort.mpr hold') (by simp) hfree' score haccepts

theorem leftovers_give_no_proposal_pair :
    ∃ more, execute1v1 (some newEngine) [amountRule ⟨9⟩ none] [plainCandidate ⟨4⟩ 70]
      [plainCandidate ⟨2⟩ 90] = .ok more ∧ more = [] := by
  have hfirst : execute1v1 (some newEngine) [amountRule ⟨9⟩ none]
      [plainCandidate ⟨1⟩ 100, plainCandidate ⟨4⟩ 70]
      [plainCandidate ⟨2⟩ 90, plainCandidate ⟨3⟩ 100] =
      .ok [directPair (amountRule ⟨9⟩ none) (plainCandidate ⟨1⟩ 100)
        (plainCandidate ⟨3⟩ 100) 100] := by
    decide +kernel
  have hlater : execute1v1 (some newEngine) [amountRule ⟨9⟩ none] [plainCandidate ⟨4⟩ 70]
      [plainCandidate ⟨2⟩ 90] = .ok [] := by
    decide +kernel
  exact ⟨[], hlater, leftovers_give_no_proposal hfirst hlater (by decide) (by decide)⟩

end Matcher.Matching
