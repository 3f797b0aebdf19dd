import WireModel.Proofs.Collection.Declared
import WireModel.Proofs.Collection.Twins

/-!
The order of the roots. A run that succeeds has met all types that any order of its roots can lead
to, and none of those stops a visit; so another order can fail only by its depth, and collects the
same classes.
-/

namespace WireModel

variable {model : Model} {start : Memory} {target : Target} {held : Memory → Prop}
  {types : HostType → Prop} {roots : List HostType}

/-- What a walk says of a type: its identity and its class. -/
def Expansion.entry (expansion : Expansion) : Identity × Option Schema.Entity :=
  (expansion.identity, expansion.entity)

section Runs

variable {collection : Collection} {walk : List Expansion} {type : HostType}
  (apart : model.NamesApart) (uniform : UniformOn model start roots types held)
  (walked : Walked model start roots (.empty target) collection walk)
  (made : Within model types held walk)

include walked in
/-- A type that was met has the identity of one that was walked. -/
theorem Walked.exists_twin (met : collection.Met type) :
    ∃ expansion ∈ walk, type.view.identity = .ok expansion.identity := by
  obtain ⟨identity, seen, identified⟩ := met
  obtain ⟨expansion, inside, rfl⟩ := walked.mem_seen.mp seen
  exact ⟨expansion, inside, identified⟩

include walked in
theorem Walked.entries_nodup : (walk.map Expansion.entry).Nodup := by
  refine List.Nodup.of_map Prod.fst ?_
  rw [List.map_map]
  exact walked.distinct

include walked in
theorem Walked.identities {expansion : Expansion} (inside : expansion ∈ walk) :
    ∀ part ∈ expansion.content.dependencies, ∃ found, part.view.identity = .ok found := by
  intro part needed
  obtain ⟨identity, -, identified⟩ := walked.closed expansion inside part needed
  exact ⟨identity, identified⟩

include apart uniform walked made

/-- A run that succeeds has met all that the types which it has met can offer. -/
theorem Walked.met_of_offers (member : types type) (met : collection.Met type) {part : HostType}
    (offers : Offers model held type part) : collection.Met part := by
  obtain ⟨expansion, inside, identified⟩ := walked.exists_twin met
  obtain ⟨memberTwin, unfolds⟩ := made expansion inside
  obtain ⟨twin, needed, same⟩ := unfolds.offered apart uniform memberTwin member
    (walked.valid _ inside).identity identified offers
  obtain ⟨identity, seen, known⟩ := walked.closed expansion inside twin needed
  exact ⟨identity, seen, same.identified known⟩

theorem Walked.not_stuck (member : types type) (met : collection.Met type) {failure : Failure} :
    ¬ Collect.Stuck model held target type failure := by
  obtain ⟨expansion, inside, identified⟩ := walked.exists_twin met
  obtain ⟨memberTwin, unfolds⟩ := made expansion inside
  have valid := walked.valid _ inside
  exact unfolds.not_stuck apart uniform memberTwin member valid.identity identified valid.entity
    (walked.identities inside)

/-- A visit to a type that a successful run has met fails by its depth only; the depth that is left
carries the induction. -/
theorem Walked.fails_tooDeep {depth : Nat} {before after : Collection × Memory} {failure : Failure}
    (member : types type) (met : collection.Met type) (holds : held before.2)
    (same : before.1.target = target)
    (failed : Collect.Fails (Collect.addAt model depth type) before failure after) :
    failure = .fault .tooDeep := by
  induction depth using Nat.strongRecOn generalizing type before after with
  | _ depth ih =>
  cases Collect.addAt_refused uniform.confines member holds failed with
  | tooDeep => rfl
  | unidentified unidentified =>
    obtain ⟨identity, -, identified⟩ := met
    cases unidentified.symm.trans identified
  | @inside identity _ _ _ identified new shallower breaks =>
    have kept : (before.1.mark identity).target = target := (Collection.mark_target ..).trans same
    cases breaks with
    | stuck _ _ reason _ _ =>
      rw [kept] at reason
      exact (walked.not_stuck apart uniform made member met reason).elim
    | inside _ visits offers holds failed =>
      exact ih _ shallower (uniform.confines.offered member offers)
        (walked.met_of_offers apart uniform made member met offers) holds
        (visits.same_target.trans kept) failed

/-- All that another walk comes to from types that a successful run has met was met by it too. -/
theorem Walked.met_of_reached {others : List HostType} {rest : List Expansion}
    (madeOther : Within model types held rest)
    (rooted : ∀ root ∈ others, collection.Met root) (reached : Reached others rest type) :
    collection.Met type := by
  induction reached with
  | root member => exact rooted _ member
  | dependency inside _ needed ih =>
    obtain ⟨member, unfolds⟩ := madeOther _ inside
    exact walked.met_of_offers apart uniform made member ih (unfolds.offers needed)

/-- Each class of another walk is one of the walk, if the walk has met the other one's roots. -/
theorem Walked.mem_of_walked {others : List HostType} {another : Collection} {rest : List Expansion}
    (walkedOther : Walked model start others (.empty target) another rest)
    (madeOther : Within model types held rest)
    (rooted : ∀ root ∈ others, collection.Met root) {expansion : Expansion}
    (inside : expansion ∈ rest) :
    expansion.entry ∈ walk.map Expansion.entry := by
  have met :=
    walked.met_of_reached apart uniform made madeOther rooted (walkedOther.reached _ inside)
  obtain ⟨twin, found, identified⟩ := walked.exists_twin met
  obtain ⟨memberTwin, unfoldsTwin⟩ := made twin found
  obtain ⟨member, unfolds⟩ := madeOther expansion inside
  have valid := walkedOther.valid _ inside
  have validTwin := walked.valid _ found
  have described : Collect.describe model target twin.type twin.content =
      Collect.describe model target expansion.type expansion.content :=
    unfoldsTwin.describe_eq apart uniform memberTwin member validTwin.identity identified unfolds
      (walked.identities found)
  have identity : twin.identity = expansion.identity :=
    Except.ok.inj (identified.symm.trans valid.identity)
  have entity : twin.entity = expansion.entity :=
    Except.ok.inj (validTwin.entity.symm.trans (described.trans valid.entity))
  exact List.mem_map.mpr ⟨twin, found, Prod.ext identity entity⟩

/-- Roots that a successful run has met can fail in another order by their depth only. -/
theorem Walked.outcome_tooDeep {others : List HostType} (members : ∀ root ∈ others, root ∈ roots)
    {failure : Failure} (fails : Schema.outcome target model start others = .error failure) :
    failure = .fault .tooDeep := by
  obtain ⟨after, failed⟩ := Collect.outcome_error.mp fails
  obtain ⟨visited, part, rest, between, rfl, visits, failed⟩ :=
    Collect.forM_fails (Collect.addAt_keeps uniform.confines Collect.maxDepth)
      (fun root member => uniform.roots root (members root member)) uniform.start failed
  have rooted := members part (List.mem_append_right _ (List.mem_cons_self ..))
  exact walked.fails_tooDeep apart uniform made (uniform.roots part rooted)
    (walked.rooted part rooted)
    visits.held_after visits.same_target failed

end Runs

/-- The same holds of other roots among the types. -/
theorem UniformOn.of_roots (uniform : UniformOn model start roots types held)
    {others : List HostType}
    (members : ∀ root ∈ others, root ∈ roots) : UniformOn model start others types held :=
  { uniform with roots := fun root member => uniform.roots root (members root member) }

/-- A run that succeeds is a walk over the types that it may come to. -/
theorem UniformOn.exists_walked (uniform : UniformOn model start roots types held) {schema : Schema}
    (succeeds : Schema.outcome target model start roots = .ok schema) :
    ∃ collection walk, collection.schema = schema ∧
      Walked model start roots (.empty target) collection walk ∧
      Within model types held walk := by
  obtain ⟨after, found, same⟩ := Collect.outcome_ok.mp succeeds
  have visits := Collect.forM_yields (Collect.addAt_keeps uniform.confines Collect.maxDepth)
    uniform.roots uniform.start found
  obtain ⟨walk, walked, made⟩ := visits.spans uniform.roots
    (Collect.addAt_spans uniform.confines uniform.arises Collect.maxDepth)
  exact ⟨after.1, walk, same, walked, made⟩

/-- Walks from the same roots collect the same classes. -/
theorem Walked.entities_perm {others : List HostType} {collection another : Collection}
    {walk rest : List Expansion} (apart : model.NamesApart)
    (uniform : UniformOn model start roots types held) (same : ∀ type, type ∈ roots ↔ type ∈ others)
    (walked : Walked model start roots (.empty target) collection walk)
    (made : Within model types held walk)
    (walkedOther : Walked model start others (.empty target) another rest)
    (madeOther : Within model types held rest) :
    collection.schema.entities.Perm another.schema.entities := by
  have uniformOther := uniform.of_roots fun root => (same root).mpr
  have entries : (walk.map Expansion.entry).Perm (rest.map Expansion.entry) := by
    refine (List.perm_ext_iff_of_nodup walked.entries_nodup walkedOther.entries_nodup).mpr
      fun entry => ⟨fun member => ?_, fun member => ?_⟩
    · obtain ⟨expansion, inside, rfl⟩ := List.mem_map.mp member
      exact walkedOther.mem_of_walked apart uniformOther madeOther walked made
        (fun root member => walkedOther.rooted root ((same root).mp member)) inside
    · obtain ⟨expansion, inside, rfl⟩ := List.mem_map.mp member
      exact walked.mem_of_walked apart uniform made walkedOther madeOther
        (fun root member => walked.rooted root ((same root).mpr member)) inside
  have classes := entries.filterMap Prod.snd
  simp only [List.filterMap_map] at classes
  exact (walked.entities.trans classes).trans walkedOther.entities.symm

namespace Collect

variable {before after state : Collection × Memory} {type : HostType}

/-- A type that was collected once is collected again without effect. -/
theorem addAt_again {depth : Nat} {identity : Identity}
    (found : Yields (addAt model depth type) before () after)
    (identified : type.view.identity = .ok identity) (old : identity ∈ state.1.seen) :
    Yields (addAt model depth type) state () state := by
  rcases depth with _ | _ | _ | depth
  · exact (not_yields_throw found).elim
  · exact (not_yields_throw found).elim
  · exact (not_yields_throw found).elim
  rw [addAt, yields_bind] at found ⊢
  obtain ⟨known, _, same, found⟩ := found
  obtain ⟨same, -⟩ := yields_ofRule.mp same
  obtain rfl : known = identity := Except.ok.inj (same.symm.trans identified)
  refine ⟨known, state, yields_ofRule.mpr ⟨identified, rfl⟩, ?_⟩
  split at found
  case isTrue =>
    obtain ⟨_, _, thrown, -⟩ := yields_bind.mp found
    exact (not_yields_throw thrown).elim
  case isFalse shallow =>
    simp only [shallow, if_false, yields_bind, yields_get]
    refine ⟨_, _, ⟨rfl, rfl⟩, ?_⟩
    simp only [Collection.hasSeen, old, decide_true, if_true, yields_pure, and_self]

theorem addAll_append (model : Model) (earlier later : List HostType) :
    addAll model (earlier ++ later) = addAll model earlier >>= fun _ => addAll model later := by
  simp [addAll]

/-- A root that occurred before has no effect. -/
theorem add_of_mem {earlier : List HostType} (member : type ∈ earlier)
    (found : Yields (addAll model earlier) (.empty target, start) () after) :
    Yields (add model type) after () after := by
  obtain ⟨walk, walked⟩ := addAll_walked found
  obtain ⟨identity, old, identified⟩ := walked.rooted type member
  obtain ⟨first, rest, rfl⟩ := List.append_of_mem member
  rw [addAll_append] at found
  obtain ⟨_, between, -, found⟩ := yields_bind.mp found
  obtain ⟨_, _, found, -⟩ := yields_bind.mp found
  exact addAt_again found identified old

end Collect

/-- Collecting some roots again changes nothing. -/
theorem Schema.outcome_repeated (target : Target) (model : Model) (start : Memory)
    {earlier : List HostType} (later : List HostType) {type : HostType} (member : type ∈ earlier) :
    Schema.outcome target model start (earlier ++ type :: later) =
      Schema.outcome target model start (earlier ++ later) := by
  have run : ((Collect.addAll model (earlier ++ type :: later)).run.run (.empty target)).run start =
      ((Collect.addAll model (earlier ++ later)).run.run (.empty target)).run start := by
    rw [Collect.addAll_append, Collect.addAll_append]
    rcases Collect.yields_or_fails (Collect.addAll model earlier) (.empty target, start) with
      ⟨_, between, found⟩ | ⟨failure, after, failed⟩
    · have again : ((Collect.addAll model (type :: later)).run.run between.1).run between.2 =
          ((Collect.addAll model later).run.run between.1).run between.2 :=
        (Collect.add_of_mem member found).run_bind
      exact (found.run_bind.trans again).trans found.run_bind.symm
    · exact failed.run_bind.trans failed.run_bind.symm
  rw [outcome_eq, outcome_eq, run]

namespace Collect

private theorem outcome_pairs :
    ∃ schema, Schema.outcome .python (pairModelOf (.variable "K")) .empty
    [pairOf (.primitive .int), pairOf markedInt] = .ok schema :=
  ⟨_, rfl⟩

private theorem outcome_pairs_again : ∃ schema,
    Schema.outcome .python (pairModelOf (.variable "K")) .empty
      [pairOf markedInt, pairOf markedInt, pairOf (.primitive .int)] = .ok schema :=
  ⟨_, rfl⟩

private theorem uniform_pairs : Uniform (pairModelOf (.variable "K")) .empty
    [pairOf (.primitive .int), pairOf markedInt] := by
  have indifferent : (pairModelOf (.variable "K")).Indifferent := .of_hasRegularHints (by decide)
  refine indifferent.uniform (pairModelOf_namesApart _) (.empty _) fun root member => ?_
  simp only [List.mem_cons, List.not_mem_nil, or_false] at member
  rcases member with rfl | rfl <;> exact ⟨by decide, by decide, by decide⟩

/-- The type of a field that joins the argument with a marked number. -/
def joinedField : HostType :=
  .union .qualified [.variable "K", markedInt]

private theorem outcome_joined_plain : Schema.outcome .python (pairModelOf joinedField) .empty
    [pairOf (.primitive .int), pairOf markedInt] =
      .error (.generation (.unsupportedUnion (.union .qualified [.primitive .int, markedInt]))) :=
        rfl

private theorem outcome_joined_marked :
    ∃ schema, Schema.outcome .python (pairModelOf joinedField) .empty
    [pairOf markedInt, pairOf (.primitive .int)] = .ok schema :=
  ⟨_, rfl⟩

end Collect

end WireModel
