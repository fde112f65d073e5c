import GraphNight.Lib.Dependency
import GraphNight.Runtime.AuditTrail

/-!
# The order of the stages

A pass takes every stage whose reference has been taken. What is taken stays sorted, and a
pass that takes nothing has found a cycle. The stages then run in that order, and each
outcome goes to the place its stage has in the caller's list.
-/

namespace GraphNight

namespace MultiStage

variable {std : RustStd} {stages : List (String × Query)}

/-- The names of the stages. -/
def names (stages : List (String × Query)) : List String := stages.map (·.1)

/-- A stage refers to another name. -/
def Refers (stages : List (String × Query)) (a b : String) : Prop := ∃ q, (a, q) ∈ stages ∧ q.stageRef = some b

/-- Between the passes: what is taken and what waits are the stages, and what is taken is sorted. -/
structure Waits (stages : List (String × Query)) (resolved : List String) (remaining : List (String × Query)) : Prop where
  perm : (resolved ++ names remaining).Perm (names stages)
  subset : remaining ⊆ stages
  sorted : Dependency.Sorted (Refers stages) resolved

/-- A stage whose reference is not taken yet. -/
def Blocked (stages : List (String × Query)) (resolved : List String) (entry : String × Query) : Prop :=
  ∃ reference, entry.2.stageRef = some reference ∧ reference ∈ names stages ∧ reference ∉ resolved

theorem any_eq_mem_names {reference : String} : (stages.any (·.1 == reference)) = true ↔ reference ∈ names stages := by
  simp [names]

/-- What a pass does with a stage. -/
theorem pass_cons (entry : String × Query) (rest : List (String × Query)) (resolved : List String)
    (waiting : List (String × Query)) :
    (∀ reference, entry.2.stageRef = some reference → reference ∈ names stages ∧ reference ∈ resolved) ∧
        pass std stages (entry :: rest) resolved waiting = pass std stages rest (resolved ++ [entry.1]) waiting ∨
      Blocked stages resolved entry ∧
        pass std stages (entry :: rest) resolved waiting = pass std stages rest resolved (waiting ++ [entry]) ∨
      ∃ reference e, entry.2.stageRef = some reference ∧ reference ∉ names stages ∧
        pass std stages (entry :: rest) resolved waiting = Res.fail e := by
  rw [pass]
  cases hreference : entry.2.stageRef with
  | none => exact .inl ⟨by simp, rfl⟩
  | some reference =>
    dsimp only
    by_cases hknown : reference ∈ names stages
    · rw [if_pos (any_eq_mem_names.2 hknown)]
      by_cases htaken : reference ∈ resolved
      · rw [if_pos (List.contains_iff_mem.2 htaken)]
        refine .inl ⟨?_, rfl⟩
        rintro _ ⟨⟩
        exact ⟨hknown, htaken⟩
      · rw [if_neg (mt List.contains_iff_mem.1 htaken)]
        exact .inr (.inl ⟨⟨reference, hreference, hknown, htaken⟩, rfl⟩)
    · rw [if_neg (mt any_eq_mem_names.1 hknown)]
      exact .inr (.inr ⟨reference, _, rfl, hknown, rfl⟩)

/-- With distinct names, a stage has the reference it is listed with, and no other. -/
theorem Refers.stageRef (hdistinct : (names stages).Nodup) {entry : String × Query} (hentry : entry ∈ stages)
    {b : String} (h : Refers stages entry.1 b) : entry.2.stageRef = some b := by
  obtain ⟨q, hq, hreference⟩ := h
  have hsame : (entry.1, q) = entry := List.inj_on_of_nodup_map hdistinct hq hentry rfl
  rwa [← hsame]

theorem Waits.init : Waits stages [] stages := ⟨.refl _, List.Subset.refl _, .nil⟩

/-- A stage that is ready is taken. -/
theorem Waits.take (hdistinct : (names stages).Nodup) {resolved : List String} {entry : String × Query}
    {before after : List (String × Query)} (h : Waits stages resolved (before ++ entry :: after))
    (hready : ∀ reference, entry.2.stageRef = some reference → reference ∈ resolved) :
    Waits stages (resolved ++ [entry.1]) (before ++ after) := by
  have hmoved : (resolved ++ [entry.1] ++ names (before ++ after)).Perm (resolved ++ names (before ++ entry :: after)) := by
    rw [List.append_assoc]
    refine List.Perm.append_left _ ?_
    simp only [names, List.map_append, List.map_cons, List.singleton_append]
    exact List.perm_middle.symm
  have hentry : entry ∈ stages := h.subset (by simp)
  have hfresh : entry.1 ∉ resolved := by
    have hnodup := (hmoved.trans h.perm).nodup_iff.2 hdistinct
    rw [List.append_assoc, List.nodup_append] at hnodup
    exact fun hmem => hnodup.2.2 _ hmem _ (List.mem_append_left _ (List.mem_singleton.2 rfl)) rfl
  refine ⟨hmoved.trans h.perm, fun e he => h.subset ?_, h.sorted.concat hfresh fun b hb => ?_⟩
  · rcases List.mem_append.1 he with he | he
    · exact List.mem_append_left _ he
    · exact List.mem_append_right _ (List.mem_cons_of_mem _ he)
  · exact hready b (hb.stageRef hdistinct hentry)

/-- A pass keeps what stands between passes, and takes a stage unless each is blocked. -/
theorem pass_waits (hdistinct : (names stages).Nodup) {rest : List (String × Query)} {resolved resolved' : List String}
    {waiting waiting' : List (String × Query)} (h : Waits stages resolved (waiting ++ rest))
    (hpass : pass std stages rest resolved waiting = .ok (resolved', waiting')) :
    Waits stages resolved' waiting' ∧ resolved.length ≤ resolved'.length ∧
      (resolved'.length = resolved.length → ∀ entry ∈ rest, Blocked stages resolved entry) := by
  induction rest generalizing resolved waiting with
  | nil =>
    obtain ⟨rfl, rfl⟩ := Prod.mk.inj (Except.ok.inj hpass)
    rw [List.append_nil] at h
    exact ⟨h, Nat.le_refl _, by simp⟩
  | cons entry rest ih =>
    obtain ⟨hready, hstep⟩ | ⟨hblocked, hstep⟩ | ⟨reference, e, -, -, hstep⟩ := pass_cons entry rest resolved waiting
    · obtain ⟨hwaits, hle, -⟩ := ih (h.take hdistinct fun b hb => (hready b hb).2) (hstep.symm.trans hpass)
      rw [List.length_append, List.length_singleton] at hle
      exact ⟨hwaits, Nat.le_of_succ_le hle, fun heq => absurd hle (by rw [heq]; exact Nat.not_succ_le_self _)⟩
    · have hmoved : Waits stages resolved (waiting ++ [entry] ++ rest) := by
        rwa [List.append_assoc, List.singleton_append]
      obtain ⟨hwaits, hle, hall⟩ := ih hmoved (hstep.symm.trans hpass)
      exact ⟨hwaits, hle, fun heq => List.forall_mem_cons.2 ⟨hblocked, hall heq⟩⟩
    · exact absurd (hstep.symm.trans hpass) Res.fail_ne_ok

/-- A pass that succeeds has seen no unknown reference. -/
theorem known_of_pass {rest : List (String × Query)} {resolved : List String} {waiting : List (String × Query)}
    {passed : List String × List (String × Query)} (h : pass std stages rest resolved waiting = .ok passed) :
    ∀ entry ∈ rest, ∀ reference, entry.2.stageRef = some reference → reference ∈ names stages := by
  induction rest generalizing resolved waiting with
  | nil => simp
  | cons entry rest ih =>
    obtain ⟨hready, hstep⟩ | ⟨⟨reference, hreference, hknown, -⟩, hstep⟩ | ⟨reference, e, -, -, hstep⟩ :=
      pass_cons entry rest resolved waiting
    · exact List.forall_mem_cons.2 ⟨fun b hb => (hready b hb).1, ih (hstep.symm.trans h)⟩
    · refine List.forall_mem_cons.2 ⟨fun b hb => ?_, ih (hstep.symm.trans h)⟩
      rwa [← Option.some.inj (hreference.symm.trans hb)]
    · exact absurd (hstep.symm.trans h) Res.fail_ne_ok

/-- A pass over stages whose references are all known succeeds; no pass panics. -/
theorem pass_total (rest : List (String × Query)) (resolved : List String) (waiting : List (String × Query)) :
    ((∀ entry ∈ rest, ∀ reference, entry.2.stageRef = some reference → reference ∈ names stages) →
        ∃ passed, pass std stages rest resolved waiting = .ok passed) ∧
      pass std stages rest resolved waiting ≠ .error .panic := by
  induction rest generalizing resolved waiting with
  | nil =>
    refine ⟨fun _ => ⟨_, rfl⟩, ?_⟩
    rintro ⟨⟩
  | cons entry rest ih =>
    obtain ⟨-, hstep⟩ | ⟨-, hstep⟩ | ⟨reference, e, hreference, hunknown, hstep⟩ := pass_cons entry rest resolved waiting
    · rw [hstep]
      obtain ⟨hok, hpanic⟩ := ih (resolved ++ [entry.1]) waiting
      exact ⟨fun hknown => hok (List.forall_mem_cons.1 hknown).2, hpanic⟩
    · rw [hstep]
      obtain ⟨hok, hpanic⟩ := ih resolved (waiting ++ [entry])
      exact ⟨fun hknown => hok (List.forall_mem_cons.1 hknown).2, hpanic⟩
    · rw [hstep]
      refine ⟨fun hknown => absurd (hknown entry List.mem_cons_self reference hreference) hunknown, ?_⟩
      exact Res.fail_ne_panic e

/-- Every reference names a stage. -/
def Known (stages : List (String × Query)) : Prop := ∀ a b, Refers stages a b → b ∈ names stages

/-- Following references never comes back. -/
def Acyclic (stages : List (String × Query)) : Prop := ∀ a, ¬Relation.TransGen (Refers stages) a a

/-- Where every waiting stage is blocked, references go in a circle. -/
theorem Waits.not_acyclic {resolved : List String} {remaining : List (String × Query)}
    (h : Waits stages resolved remaining) (hne : remaining ≠ [])
    (hblocked : ∀ entry ∈ remaining, Blocked stages resolved entry) : ¬Acyclic stages := by
  intro hacyclic
  obtain ⟨a, hcycle⟩ : ∃ a, Relation.TransGen (Refers stages) a a := by
    have hwaiting : names remaining ≠ [] := by simpa [names] using hne
    refine Dependency.exists_cycle hwaiting fun a ha => ?_
    obtain ⟨entry, hentry, rfl⟩ := List.mem_map.1 ha
    obtain ⟨reference, hreference, hknown, hwaits⟩ := hblocked entry hentry
    refine ⟨reference, ?_, entry.2, h.subset hentry, hreference⟩
    exact (List.mem_append.1 (h.perm.symm.mem_iff.1 hknown)).resolve_left hwaits
  exact hacyclic a hcycle

theorem Waits.length_eq {resolved : List String} {remaining : List (String × Query)}
    (h : Waits stages resolved remaining) : resolved.length + remaining.length = stages.length := by
  have hlength := h.perm.length_eq
  rwa [List.length_append, names, names, List.length_map, List.length_map] at hlength

/-- The passes after one that succeeds. -/
theorem passes_of_pass {n : Nat} {entry : String × Query} {rest waiting : List (String × Query)}
    {resolved resolved' : List String} (h : pass std stages (entry :: rest) resolved [] = .ok (resolved', waiting)) :
    passes std stages (n + 1) resolved (entry :: rest) =
      if resolved'.length = resolved.length then
        Res.fail (.invalidQuery ("cycle detected in multi-stage query: " ++ Str.join " -> " (waiting.map (·.1))))
      else passes std stages n resolved' waiting := by
  rw [passes, h]
  rfl

theorem passes_of_error {n : Nat} {entry : String × Query} {rest : List (String × Query)} {resolved : List String}
    {fault : Fault ServiceError} (h : pass std stages (entry :: rest) resolved [] = .error fault) :
    passes std stages (n + 1) resolved (entry :: rest) = .error fault := by
  rw [passes, h]
  rfl

/-- The passes never run out, and end with the sorted stages unless a reference is unknown or
references go in a circle. -/
theorem passes_spec (hdistinct : (names stages).Nodup) {n : Nat} {resolved : List String}
    {remaining : List (String × Query)} (h : Waits stages resolved remaining) (hfuel : remaining.length ≤ n) :
    passes std stages n resolved remaining ≠ .error .panic ∧
      (∀ order, passes std stages n resolved remaining = .ok order → Waits stages order [] ∧
        ∀ entry ∈ remaining, ∀ reference, entry.2.stageRef = some reference → reference ∈ names stages) ∧
      (Known stages → Acyclic stages → ∃ order, passes std stages n resolved remaining = .ok order) := by
  induction n generalizing resolved remaining with
  | zero =>
    obtain rfl := List.length_eq_zero_iff.1 (Nat.le_zero.1 hfuel)
    rw [passes]
    refine ⟨by rintro ⟨⟩, fun order horder => ?_, fun _ _ => ⟨_, rfl⟩⟩
    obtain rfl := Except.ok.inj horder
    exact ⟨h, by simp⟩
  | succ n ih =>
    cases remaining with
    | nil =>
      rw [passes]
      refine ⟨by rintro ⟨⟩, fun order horder => ?_, fun _ _ => ⟨_, rfl⟩⟩
      obtain rfl := Except.ok.inj horder
      exact ⟨h, by simp⟩
    | cons entry rest =>
      obtain ⟨hok, hpanic⟩ := @pass_total std stages (entry :: rest) resolved []
      cases hpass : pass std stages (entry :: rest) resolved [] with
      | error fault =>
        rw [passes_of_error hpass]
        refine ⟨?_, ?_, fun hknown _ => ?_⟩
        · rintro ⟨⟩
          exact hpanic hpass
        · rintro order ⟨⟩
        · obtain ⟨passed, hpassed⟩ := hok fun e he b hb => hknown e.1 b ⟨e.2, h.subset he, hb⟩
          cases hpass.symm.trans hpassed
      | ok passed =>
        obtain ⟨resolved', waiting⟩ := passed
        obtain ⟨hwaits, hle, hblocked⟩ := @pass_waits std stages hdistinct (entry :: rest) _ _ [] _ h hpass
        rw [passes_of_pass hpass]
        by_cases hstuck : resolved'.length = resolved.length
        · rw [if_pos hstuck]
          refine ⟨Res.fail_ne_panic _, fun order horder => absurd horder Res.fail_ne_ok, fun _ hacyclic => ?_⟩
          exact absurd hacyclic (h.not_acyclic (List.cons_ne_nil _ _) (hblocked hstuck))
        · rw [if_neg hstuck]
          have hfewer : waiting.length ≤ n := by
            have hbefore := h.length_eq
            have hafter := hwaits.length_eq
            rw [List.length_cons] at hbefore hfuel
            omega
          obtain ⟨hnever, hsound, hcomplete⟩ := ih hwaits hfewer
          exact ⟨hnever, fun order horder => ⟨(hsound order horder).1, known_of_pass hpass⟩, hcomplete⟩

/-- **Ordering the stages** ends; it succeeds when references name stages and never cycle, and
then every stage comes once, after the one it refers to. -/
theorem topologicalOrder_spec (hdistinct : (names stages).Nodup) :
    topologicalOrder std stages ≠ .error .panic ∧
      ((∃ order, topologicalOrder std stages = .ok order) ↔ Known stages ∧ Acyclic stages) ∧
      ∀ order, topologicalOrder std stages = .ok order →
        order.Perm (names stages) ∧ Dependency.Sorted (Refers stages) order := by
  obtain ⟨hnever, hsound, hcomplete⟩ := @passes_spec std stages hdistinct _ _ _ .init (Nat.le_refl _)
  have hsorted : ∀ order, topologicalOrder std stages = .ok order →
      order.Perm (names stages) ∧ Dependency.Sorted (Refers stages) order := fun order horder => by
    have hwaits := (hsound order horder).1
    refine ⟨?_, hwaits.sorted⟩
    simpa [names] using hwaits.perm
  refine ⟨hnever, ⟨?_, fun h => hcomplete h.1 h.2⟩, hsorted⟩
  rintro ⟨order, horder⟩
  obtain ⟨hperm, hsort⟩ := hsorted order horder
  constructor
  · rintro a b ⟨q, hq, hreference⟩
    exact (hsound order horder).2 _ hq b hreference
  · intro a hcycle
    obtain ⟨b, ⟨q, hq, hreference⟩, -⟩ := Relation.TransGen.head'_iff.1 hcycle
    have ha : a ∈ order := hperm.mem_iff.2 (List.mem_map_of_mem hq)
    exact hsort.acyclic ha hcycle

/-! ## The run -/

/-- A stage that was run: what it ran and what came back. -/
structure StageCall where
  name : String
  query : Query
  outcome : QueryOutcome

variable {host : Host} {ctx : CallContext} {options : ExecuteOptions}

/-- Stages run one after the other, each with the outcomes before it. -/
inductive Runs (std : RustStd) (host : Host) (ctx : CallContext) (stages : List (String × Query))
    (options : ExecuteOptions) : Outcomes → QueryService → List StageCall → QueryService → Prop
  | done {byName : Outcomes} {s : QueryService} : Runs std host ctx stages options byName s [] s
  | call {byName : Outcomes} {s s₁ s₂ : QueryService} {name : String} {query : Query} {outcome : QueryOutcome}
      {calls : List StageCall} (hquery : prepare std stages byName name = .ok query)
      (houtcome : s.execute host ctx query options = (.ok outcome, s₁))
      (hrest : Runs std host ctx stages options (byName.insert (name, outcome)) s₁ calls s₂) :
      Runs std host ctx stages options byName s (⟨name, query, outcome⟩ :: calls) s₂

/-- Stages run until one of them fails. -/
inductive Fails (std : RustStd) (host : Host) (ctx : CallContext) (stages : List (String × Query))
    (options : ExecuteOptions) : Outcomes → QueryService → List StageCall → String → Fault ServiceError → QueryService → Prop
  | here {byName : Outcomes} {s s₁ : QueryService} {name : String} {query : Query} {e : Fault ServiceError}
      (hquery : prepare std stages byName name = .ok query)
      (hfailed : s.execute host ctx query options = (.error e, s₁)) :
      Fails std host ctx stages options byName s [] name e s₁
  | call {byName : Outcomes} {s s₁ s₂ : QueryService} {name failed : String} {query : Query} {outcome : QueryOutcome}
      {calls : List StageCall} {e : Fault ServiceError} (hquery : prepare std stages byName name = .ok query)
      (houtcome : s.execute host ctx query options = (.ok outcome, s₁))
      (hrest : Fails std host ctx stages options (byName.insert (name, outcome)) s₁ calls failed e s₂) :
      Fails std host ctx stages options byName s (⟨name, query, outcome⟩ :: calls) failed e s₂

/-- The outcome of a stage among those run. -/
def outcomeOf (calls : List StageCall) (name : String) : Option QueryOutcome :=
  (calls.find? (·.name == name)).map (·.outcome)

/-- Each outcome in the place of its stage. -/
def placed (stages : List (String × Query)) (calls : List StageCall) : List (Option QueryOutcome) :=
  stages.map fun stage => outcomeOf calls stage.1

theorem outcomeOf_concat_self {calls : List StageCall} {call : StageCall} (h : call.name ∉ calls.map (·.name)) :
    outcomeOf (calls ++ [call]) call.name = some call.outcome := by
  have hnone : calls.find? (·.name == call.name) = none := by
    rw [List.find?_eq_none]
    intro c hc heq
    exact h (List.mem_map.2 ⟨c, hc, beq_iff_eq.1 heq⟩)
  rw [outcomeOf, List.find?_append, hnone]
  simp

theorem outcomeOf_concat_of_ne {calls : List StageCall} {call : StageCall} {name : String} (h : call.name ≠ name) :
    outcomeOf (calls ++ [call]) name = outcomeOf calls name := by
  rw [outcomeOf, outcomeOf, List.find?_append]
  simp [h]

/-- The place of each stage is its own. -/
def OwnPlaces (stages : List (String × Query)) (position : KeyedList (String × Nat) Prod.fst) : Prop :=
  ∀ (i : Nat) (stage : String × Query), stages[i]? = some stage → position.get stage.1 = some (stage.1, i)

theorem placed_set (hdistinct : (names stages).Nodup) {calls : List StageCall} {call : StageCall} {i : Nat} {q : Query}
    (hstage : stages[i]? = some (call.name, q)) (hfresh : call.name ∉ calls.map (·.name)) :
    (placed stages calls).set i (some call.outcome) = placed stages (calls ++ [call]) := by
  obtain ⟨hi, -⟩ := List.getElem?_eq_some_iff.1 hstage
  apply List.ext_getElem?
  intro j
  rw [List.getElem?_set, placed, placed, List.length_map, List.getElem?_map, List.getElem?_map]
  by_cases hij : i = j
  · subst hij
    rw [if_pos rfl, if_pos hi, hstage]
    exact congrArg some (outcomeOf_concat_self hfresh).symm
  · rw [if_neg hij]
    cases hother : stages[j]? with
    | none => rfl
    | some stage =>
      refine congrArg some (outcomeOf_concat_of_ne fun hname => hij ?_).symm
      refine (List.getElem?_inj (by rwa [names, List.length_map]) hdistinct).1 ?_
      rw [names, List.getElem?_map, List.getElem?_map, hstage, hother]
      exact congrArg some hname

/-- Names that are all different get a place each. -/
theorem positions_spec {rest : List (String × Query)} {i : Nat} {m : KeyedList (String × Nat) Prod.fst}
    (hdistinct : (names rest).Nodup) (hfresh : ∀ name ∈ names rest, m.get name = none) :
    ∃ position, positions rest i m = .ok position ∧
      (∀ (j : Nat) (stage : String × Query), rest[j]? = some stage → position.get stage.1 = some (stage.1, i + j)) ∧
      ∀ name, name ∉ names rest → position.get name = m.get name := by
  induction rest generalizing i m with
  | nil => exact ⟨m, rfl, by simp, fun _ _ => rfl⟩
  | cons entry rest ih =>
    obtain ⟨name, q⟩ := entry
    obtain ⟨hnew, hrest⟩ := List.nodup_cons.1 hdistinct
    have hget : ∀ k, (m.insert (name, i)).get k = if name = k then some (name, i) else m.get k :=
      KeyedList.get_insert m (name, i)
    obtain ⟨position, hok, hplaces, hothers⟩ := @ih (i + 1) (m.insert (name, i)) hrest fun other hother => by
      rw [hget, if_neg]
      · exact hfresh other (List.mem_cons_of_mem _ hother)
      · rintro rfl
        exact hnew hother
    refine ⟨position, ?_, ?_, ?_⟩
    · rw [positions, hfresh name List.mem_cons_self]
      exact hok
    · intro j stage hstage
      cases j with
      | zero =>
        obtain rfl := Option.some.inj hstage
        rw [hothers name hnew, hget, if_pos rfl]
        rfl
      | succ j =>
        rw [hplaces j stage hstage]
        exact congrArg (fun place => some (stage.1, place)) (Nat.succ_add_eq_add_succ i j)
    · intro other hother
      rw [hothers other fun hmem => hother (List.mem_cons_of_mem _ hmem), hget, if_neg]
      rintro rfl
      exact hother List.mem_cons_self

/-- A stage all of whose outcomes are there can be run. -/
theorem exists_prepare {byName : Outcomes} {name : String} (hname : name ∈ names stages)
    (hready : ∀ reference, Refers stages name reference → (byName.get reference).isSome) :
    ∃ query, prepare std stages byName name = .ok query := by
  obtain ⟨stage, hstage, rfl⟩ := List.mem_map.1 hname
  obtain ⟨found, hfound⟩ : ∃ found, stages.find? (·.1 == stage.1) = some found :=
    Option.isSome_iff_exists.1 (List.find?_isSome.2 ⟨stage, hstage, beq_self_eq_true _⟩)
  have hsame := List.find?_some hfound
  rw [beq_iff_eq] at hsame
  have hchosen : ∀ query : Query, ∃ named,
      (if query.name = none ∧ query.sourceModel = none then (.ok { query with name := some stage.1 } : Res ServiceError Query)
        else .ok query) = .ok named := fun query => by
    split_ifs <;> exact ⟨_, rfl⟩
  unfold prepare
  rw [hfound]
  dsimp only [Option.map]
  cases hreference : found.2.stageRef with
  | none => exact hchosen found.2
  | some reference =>
    have hrefers : Refers stages stage.1 reference :=
      ⟨found.2, by rw [← hsame]; exact List.mem_of_find?_eq_some hfound, hreference⟩
    obtain ⟨previous, hprevious⟩ := Option.isSome_iff_exists.1 (hready reference hrefers)
    dsimp only
    rw [hprevious]
    exact hchosen (applyStageRef found.2 previous.2)

/-- From the stages that ran to the end: the others run, each outcome in its place, or one fails. -/
theorem run_spec (hdistinct : (names stages).Nodup) {position : KeyedList (String × Nat) Prod.fst}
    (hplaces : OwnPlaces stages position) {order : List String} (hperm : order.Perm (names stages))
    (hsorted : Dependency.Sorted (Refers stages) order) {ran : List StageCall} {rest : List String} {byName : Outcomes}
    (hsplit : ran.map (·.name) ++ rest = order) (hknown : ∀ call ∈ ran, (byName.get call.name).isSome) (s : QueryService) :
    (∃ calls s', calls.map (·.name) = rest ∧ Runs std host ctx stages options byName s calls s' ∧
        run std host ctx stages position options rest byName (placed stages ran) s =
          (.ok (placed stages (ran ++ calls)), s')) ∨
      ∃ calls failed later e s', rest = calls.map (·.name) ++ failed :: later ∧
        Fails std host ctx stages options byName s calls failed e s' ∧
        run std host ctx stages position options rest byName (placed stages ran) s = (.error e, s') := by
  induction rest generalizing ran byName s with
  | nil => exact .inl ⟨[], s, rfl, .done, by rw [List.append_nil]; rfl⟩
  | cons name rest ih =>
    have hname : name ∈ order := by
      rw [← hsplit]
      exact List.mem_append_right _ List.mem_cons_self
    have hnodup : (ran.map (·.name) ++ name :: rest).Nodup := hsplit ▸ hperm.nodup_iff.2 hdistinct
    have hfresh : name ∉ ran.map (·.name) := fun hmem =>
      (List.nodup_append.1 hnodup).2.2 name hmem name List.mem_cons_self rfl
    obtain ⟨i, stage, hstage, rfl⟩ : ∃ (i : Nat) (stage : String × Query), stages[i]? = some stage ∧ stage.1 = name := by
      obtain ⟨stage, hstage, hsame⟩ := List.mem_map.1 (hperm.mem_iff.1 hname)
      obtain ⟨i, hi⟩ := List.mem_iff_getElem?.1 hstage
      exact ⟨i, stage, hi, hsame⟩
    -- what the stage refers to stands before it, so it has been run
    obtain ⟨query, hquery⟩ := @exists_prepare std stages byName stage.1 (hperm.mem_iff.1 hname) fun reference href => by
      obtain ⟨-, hlt⟩ := hsorted _ _ hname href
      have hbefore : reference ∈ ran.map (·.name) := by
        by_contra hlate
        rw [← hsplit, List.idxOf_append_of_notMem hlate, List.idxOf_append_of_notMem hfresh, List.idxOf_cons_self] at hlt
        omega
      obtain ⟨call, hcall, rfl⟩ := List.mem_map.1 hbefore
      exact hknown call hcall
    rw [run, hquery]
    dsimp only
    generalize hexecuted : s.execute host ctx query options = executed
    obtain ⟨result, s₁⟩ := executed
    cases result with
    | error e => exact .inr ⟨[], stage.1, rest, e, s₁, rfl, .here hquery hexecuted, rfl⟩
    | ok outcome =>
      have hset : (placed stages ran).set i (some outcome) = placed stages (ran ++ [⟨stage.1, query, outcome⟩]) :=
        @placed_set stages hdistinct ran ⟨stage.1, query, outcome⟩ i stage.2 hstage hfresh
      dsimp only
      rw [hplaces i stage hstage]
      dsimp only
      rw [hset]
      have hsplit' : (ran ++ [(⟨stage.1, query, outcome⟩ : StageCall)]).map (·.name) ++ rest = order := by
        rw [← hsplit, List.map_append, List.append_assoc]
        rfl
      have hknown' : ∀ call ∈ ran ++ [(⟨stage.1, query, outcome⟩ : StageCall)],
          ((byName.insert (stage.1, outcome)).get call.name).isSome := fun call hcall => by
        rw [KeyedList.get_insert]
        split_ifs with hsame
        · rfl
        · rcases List.mem_append.1 hcall with hcall | hcall
          · exact hknown call hcall
          · exact absurd (congrArg StageCall.name (List.mem_singleton.1 hcall)).symm hsame
      rcases ih hsplit' hknown' s₁ with
        ⟨calls, s', hnames, hruns, hrun⟩ | ⟨calls, failed, later, e, s', hrest, hfails, hrun⟩
      · refine .inl ⟨⟨stage.1, query, outcome⟩ :: calls, s', by rw [List.map_cons, hnames], .call hquery hexecuted hruns, ?_⟩
        rwa [List.append_assoc, List.singleton_append] at hrun
      · exact .inr ⟨⟨stage.1, query, outcome⟩ :: calls, failed, later, e, s', by rw [hrest]; rfl,
          .call hquery hexecuted hfails, hrun⟩

/-- Where every stage has run, every place is taken, by the outcome of its stage. -/
theorem placed_full {calls : List StageCall} (h : ∀ stage ∈ stages, stage.1 ∈ calls.map (·.name)) :
    List.Forall₂ (fun stage outcome => ∃ call ∈ calls, call.name = stage.1 ∧ call.outcome = outcome) stages
      ((placed stages calls).filterMap id) := by
  induction stages with
  | nil => exact .nil
  | cons stage rest ih =>
    obtain ⟨hstage, hrest⟩ := List.forall_mem_cons.1 h
    obtain ⟨call, hcall, hname⟩ := List.mem_map.1 hstage
    obtain ⟨found, hfound⟩ : ∃ found, calls.find? (·.name == stage.1) = some found :=
      Option.isSome_iff_exists.1 (List.find?_isSome.2 ⟨call, hcall, beq_iff_eq.2 hname⟩)
    have hsame := List.find?_some hfound
    rw [beq_iff_eq] at hsame
    have hplaced : placed (stage :: rest) calls = some found.outcome :: placed rest calls := by
      rw [placed, List.map_cons, outcomeOf, hfound]
      rfl
    rw [hplaced]
    exact .cons ⟨found, List.mem_of_find?_eq_some hfound, hsame, rfl⟩ (ih hrest)

end MultiStage

open MultiStage

/-- The pipeline answers with an outcome for each stage, in the caller's order, from stages run
once each in the given order. -/
def QueryService.AnswersInOrder (std : RustStd) (s : QueryService) (host : Host) (ctx : CallContext)
    (stages : List (String × Query)) (dryRun : Bool) (order : List String) (outcomes : List QueryOutcome) : Prop :=
  ∃ calls s', calls.map (·.name) = order ∧ Runs std host ctx stages (stageOptions dryRun) .empty s calls s' ∧
    s.executeMultiStage std host ctx stages dryRun = (.ok outcomes, s') ∧
    List.Forall₂ (fun stage outcome => ∃ call ∈ calls, call.name = stage.1 ∧ call.outcome = outcome) stages outcomes

/-- The pipeline fails with the error of a stage, the ones before it in the given order having run. -/
def QueryService.FailsInOrder (std : RustStd) (s : QueryService) (host : Host) (ctx : CallContext)
    (stages : List (String × Query)) (dryRun : Bool) (order : List String) : Prop :=
  ∃ calls failed later e s', order = calls.map (·.name) ++ failed :: later ∧
    Fails std host ctx stages (stageOptions dryRun) .empty s calls failed e s' ∧
    s.executeMultiStage std host ctx stages dryRun = (.error e, s')

/-- A pipeline whose order is found runs its stages in that order, to the end or to the first
that fails. -/
theorem QueryService.executeMultiStage_of_order {std : RustStd} {stages : List (String × Query)} {order : List String}
    (hne : stages ≠ []) (hdistinct : (names stages).Nodup) (horder : topologicalOrder std stages = .ok order)
    (s : QueryService) (host : Host) (ctx : CallContext) (dryRun : Bool) :
    (∃ outcomes, s.AnswersInOrder std host ctx stages dryRun order outcomes) ∨
      s.FailsInOrder std host ctx stages dryRun order := by
  obtain ⟨-, -, hsorts⟩ := @topologicalOrder_spec std stages hdistinct
  obtain ⟨hperm, hsorted⟩ := hsorts order horder
  obtain ⟨position, hposition, hplaces, -⟩ := @positions_spec stages 0 .empty hdistinct fun _ _ => rfl
  have hown : OwnPlaces stages position := fun i stage hstage => by
    rw [hplaces i stage hstage, Nat.zero_add]
  have hplan : plan std stages = .ok (order, position) := by
    rw [plan, if_neg (by simpa using hne), horder]
    exact Res.bind_eq_ok.2 ⟨order, rfl, Res.bind_eq_ok.2 ⟨position, hposition, rfl⟩⟩
  have hexecute : ∀ result s', run std host ctx stages position (stageOptions dryRun) order .empty (placed stages []) s =
      (result, s') → s.executeMultiStage std host ctx stages dryRun = (result.map (·.filterMap id), s') := by
    intro result s' hrun
    have hrun' : run std host ctx stages position (if dryRun then .compile else .executing) order .empty
        (stages.map fun _ => none) s = (result, s') := hrun
    simp only [executeMultiStage, hplan, hrun']
  rcases @run_spec std stages host ctx (stageOptions dryRun) hdistinct position hown order hperm hsorted [] order .empty
    rfl (by simp) s with ⟨calls, s', hnames, hruns, hrun⟩ | ⟨calls, failed, later, e, s', hsplit, hfails, hrun⟩
  · refine .inl ⟨_, calls, s', hnames, hruns, hexecute _ s' hrun, placed_full fun stage hstage => ?_⟩
    rw [hnames]
    exact hperm.mem_iff.2 (List.mem_map_of_mem hstage)
  · exact .inr ⟨calls, failed, later, e, s', hsplit, hfails, hexecute _ s' hrun⟩

/-- A pipeline without stages, and one whose order is not found, is refused. -/
theorem QueryService.executeMultiStage_refused {std : RustStd} {stages : List (String × Query)}
    (h : stages = [] ∨ ∃ e, topologicalOrder std stages = .error e) (s : QueryService) (host : Host) (ctx : CallContext)
    (dryRun : Bool) : ∃ e, s.executeMultiStage std host ctx stages dryRun = (.error e, s) := by
  obtain ⟨e, hplan⟩ : ∃ e, plan std stages = .error e := by
    rcases h with rfl | ⟨e, he⟩
    · exact ⟨_, rfl⟩
    · unfold plan
      split_ifs
      · exact ⟨_, rfl⟩
      · rw [he]
        exact ⟨_, rfl⟩
  exact ⟨e, by simp only [executeMultiStage, hplan]⟩

/-- **Stages are ordered and run** as their references ask: the order exists when every reference
names a stage and following references never cycles, and lists every stage once, behind the one
it refers to; a pipeline that answers has run its stages in that order, and answers for each. -/
theorem QueryService.stages_run_in_order {std : RustStd} {stages : List (String × Query)}
    (hdistinct : (names stages).Nodup) :
    topologicalOrder std stages ≠ .error .panic ∧
      ((∃ order, topologicalOrder std stages = .ok order) ↔ Known stages ∧ Acyclic stages) ∧
      (∀ order, topologicalOrder std stages = .ok order →
        order.Perm (names stages) ∧ Dependency.Sorted (Refers stages) order) ∧
      ∀ (s : QueryService) (host : Host) (ctx : CallContext) (dryRun : Bool),
        (∀ outcomes, (s.executeMultiStage std host ctx stages dryRun).1 = .ok outcomes →
          ∃ order, topologicalOrder std stages = .ok order ∧
            s.AnswersInOrder std host ctx stages dryRun order outcomes) ∧
        ∀ e, (s.executeMultiStage std host ctx stages dryRun).1 = .error e →
          stages = [] ∨ (∃ e, topologicalOrder std stages = .error e) ∨
            ∃ order, topologicalOrder std stages = .ok order ∧ s.FailsInOrder std host ctx stages dryRun order := by
  obtain ⟨hnever, hiff, hsorts⟩ := @topologicalOrder_spec std stages hdistinct
  refine ⟨hnever, hiff, hsorts, fun s host ctx dryRun => ?_⟩
  by_cases hrefused : stages = [] ∨ ∃ e, topologicalOrder std stages = .error e
  · obtain ⟨e, he⟩ := executeMultiStage_refused hrefused s host ctx dryRun
    rw [he]
    refine ⟨?_, fun _ _ => hrefused.imp_right .inl⟩
    rintro outcomes ⟨⟩
  · rw [not_or, not_exists] at hrefused
    obtain ⟨order, horder⟩ : ∃ order, topologicalOrder std stages = .ok order := by
      cases horder : topologicalOrder std stages with
      | error e => exact absurd horder (hrefused.2 e)
      | ok order => exact ⟨order, rfl⟩
    rcases executeMultiStage_of_order hrefused.1 hdistinct horder s host ctx dryRun with ⟨outcomes, hanswers⟩ | hfails
    · have hresult : (s.executeMultiStage std host ctx stages dryRun).1 = .ok outcomes := by
        obtain ⟨calls, s', -, -, hanswered, -⟩ := hanswers
        rw [hanswered]
      refine ⟨fun outcomes' houtcomes => ⟨order, horder, ?_⟩, fun e he => ?_⟩
      · rwa [← Except.ok.inj (hresult.symm.trans houtcomes)]
      · cases hresult.symm.trans he
    · have hresult : ∃ e, (s.executeMultiStage std host ctx stages dryRun).1 = .error e := by
        obtain ⟨calls, failed, later, e, s', -, -, hfailed⟩ := hfails
        exact ⟨e, by rw [hfailed]⟩
      obtain ⟨e, he⟩ := hresult
      refine ⟨fun outcomes houtcomes => ?_, fun _ _ => .inr (.inr ⟨order, horder, hfails⟩)⟩
      cases he.symm.trans houtcomes

open UserListing in
/-- A stage listed before the one it refers to is run after it, and answered first. -/
theorem QueryService.stages_run_in_order_swapped :
    Acyclic [("first", { query with stageRef := some "all" }), ("all", query)] ∧
      ∃ outcomes, service.AnswersInOrder std answering ana
        [("first", { query with stageRef := some "all" }), ("all", query)] false ["all", "first"] outcomes := by
  obtain ⟨-, hiff, -, hruns⟩ := @stages_run_in_order std
    [("first", { query with stageRef := some "all" }), ("all", query)] (by decide)
  have horder : topologicalOrder std [("first", { query with stageRef := some "all" }), ("all", query)] =
      .ok ["all", "first"] := rfl
  refine ⟨(hiff.1 ⟨_, horder⟩).2, ?_⟩
  have hanswered : (service.executeMultiStage std answering ana
      [("first", { query with stageRef := some "all" }), ("all", query)] false).1.isOk = true := by decide +kernel
  cases hresult : (service.executeMultiStage std answering ana
      [("first", { query with stageRef := some "all" }), ("all", query)] false).1 with
  | error e =>
    rw [hresult] at hanswered
    cases hanswered
  | ok outcomes =>
    obtain ⟨order, horder', hanswers⟩ := (hruns service answering ana false).1 outcomes hresult
    obtain rfl := Except.ok.inj (horder.symm.trans horder')
    exact ⟨outcomes, hanswers⟩

end GraphNight
