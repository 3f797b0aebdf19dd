import WireModel.Proofs.Collection.Step

/-!
What a visit to one type does: which types it visits in their turn, which class follows from them,
and what stops it when it fails. Whatever holds of a whole run comes from here, by induction on the
depth that is left.
-/

namespace WireModel

/-- A class behind all others is in its place among those of its kind. -/
theorem Schema.entities_add (schema : Schema) (entity : Entity) :
    (schema.add entity).entities.Perm (schema.entities ++ [entity]) := by
  cases entity with
  | record entity =>
    simp only [entities, add, List.map_append, List.map_cons, List.map_nil, List.append_assoc]
    refine List.Perm.append_left _ ?_
    rw [List.singleton_append, ← List.append_assoc]
    exact (List.perm_append_singleton _ _).symm
  | enumeration entity =>
    simp only [entities, add, List.map_append, List.map_cons, List.map_nil, List.append_assoc]
    refine List.Perm.append_left _ (List.Perm.append_left _ ?_)
    rw [List.singleton_append]
    exact (List.perm_append_singleton _ _).symm
  | dataEnum entity =>
    simp only [entities, add, List.map_append, List.map_cons, List.map_nil, List.append_assoc]
    exact List.Perm.refl _

/-- The collection with the class of a type, if it has one. -/
def Collection.addTo (collection : Collection) (entity : Option Schema.Entity) : Collection :=
  entity.elim collection collection.add

theorem Collection.addTo_target (collection : Collection) (entity : Option Schema.Entity) :
    (collection.addTo entity).target = collection.target := by
  cases entity <;> rfl

theorem Collection.addTo_seen (collection : Collection) (entity : Option Schema.Entity) :
    (collection.addTo entity).seen = collection.seen := by
  cases entity <;> rfl

theorem Collection.addTo_entities (collection : Collection) (entity : Option Schema.Entity) :
    (collection.addTo entity).schema.entities.Perm
      (collection.schema.entities ++ entity.toList) := by
  cases entity with
  | none => simp [addTo]
  | some entity => exact Schema.entities_add _ _

namespace Collect

variable {model : Model} {target : Target} {held : Memory → Prop}
  {visit visitArgument : HostType → Collect Unit} {before between after : Collection × Memory}
  {failure : Failure} {types : HostType → Prop} {type : HostType}

section Parts

variable (confines : Confines model types held) (member : types type) {ref : ClassRef}
  {args : List View}

include confines member

theorem record_yields (keeps : Keeps types held visit) {result : Schema.Record}
    (seenAs : type.view = .record ref args) (holds : held before.2)
    (found : Yields (record model visit ref type) before result after) :
    ∃ fields, Unfolds model held type (.record ref fields) ∧
      describe model before.1.target type (.record ref fields) = .ok (some (.record result)) ∧
      Visits held visit (fields.map Prod.snd) before after := by
  simp only [record, yields_bind, yields_lift, yields_resolve, yields_className, yields_pure]
    at found
  obtain ⟨bindings, _, ⟨bound, rfl⟩, declared, between, ⟨typed, kept⟩, className, _,
    ⟨named, rfl⟩, fields, _, visited, rfl, rfl⟩ := found
  have next := confines.fields member seenAs holds
  have declares : ((model.typedFields ref).run.run before.2).1 = .ok declared := by rw [typed]
  rw [typed] at next
  obtain ⟨closed, closes, described, visits⟩ :=
    fields_yield confines keeps member
      (fun _ inside => .field seenAs bound holds declares inside) next visited
  rw [kept] at named described
  refine ⟨closed, .record seenAs bound holds declares closes, ?_, visits.after_build kept⟩
  simp only [describe, named, described]
  rfl

theorem record_breaks (keeps : Keeps types held visit) (seenAs : type.view = .record ref args)
    (holds : held before.2) (failed : Fails (record model visit ref type) before failure after) :
    Breaks model held visit type before failure after := by
  simp only [record, fails_bind, fails_lift, fails_resolve, fails_className, not_fails_pure,
    yields_lift, yields_resolve, yields_className, and_false, exists_false, or_false] at failed
  have next := confines.fields member seenAs holds
  rcases failed with ⟨unbound, rfl⟩ | ⟨bindings, _, ⟨bound, rfl⟩, failed⟩
  · exact .stuck (by simp) (.done holds) (.bindings (.inl seenAs) unbound) rfl holds
  rcases failed with ⟨unread, kept⟩ | ⟨declared, between, ⟨typed, kept⟩, failed⟩
  · rw [unread] at next
    exact .stuck (by simp) (.done holds) (.fields seenAs holds (by rw [unread])) kept next
  have declares : ((model.typedFields ref).run.run before.2).1 = .ok declared := by rw [typed]
  rw [typed] at next
  rcases failed with ⟨unnamed, rfl⟩ | ⟨className, _, ⟨named, rfl⟩, failed⟩
  · rw [kept] at unnamed
    exact .stuck (by simp) (.done holds)
      (.className (by simp [seenAs, View.IsContainer]) unnamed) kept
      next
  · exact .following (by simp) ((Visits.done next).after_build kept)
      (fields_break confines keeps member
        (fun _ inside => .field seenAs bound holds declares inside) next failed)

theorem dataEnum_yields (keeps : Keeps types held visit) {result : Schema.DataEnum}
    (seenAs : type.view = .dataEnum ref args) (holds : held before.2)
    (found : Yields (dataEnum model visit ref type) before result after) :
    ∃ variants, Unfolds model held type (.dataEnum ref variants) ∧
      describe model before.1.target type (.dataEnum ref variants) =
        .ok (some (.dataEnum result)) ∧
      Visits held visit (variants.flatMap fun declared => declared.payload.types) before after := by
  simp only [dataEnum, yields_bind, yields_lift, yields_className, yields_pure] at found
  obtain ⟨bindings, _, ⟨bound, rfl⟩, className, _, ⟨named, rfl⟩, variants, _, visited, rfl, rfl⟩ :=
    found
  obtain ⟨closed, closes, described, visits⟩ :=
    variants_yield confines keeps member
      (fun _ inside _ carried => .slot seenAs bound inside carried) holds visited
  refine ⟨closed, .dataEnum seenAs bound closes, ?_, visits⟩
  simp only [describe, named, described]
  rfl

theorem dataEnum_breaks (keeps : Keeps types held visit) (seenAs : type.view = .dataEnum ref args)
    (holds : held before.2) (failed : Fails (dataEnum model visit ref type) before failure after) :
    Breaks model held visit type before failure after := by
  simp only [dataEnum, fails_bind, fails_lift, fails_className, not_fails_pure, yields_lift,
    yields_className, and_false, exists_false, or_false] at failed
  rcases failed with ⟨unbound, rfl⟩ | ⟨bindings, _, ⟨bound, rfl⟩, failed⟩
  · exact .stuck (by simp) (.done holds) (.bindings (.inr seenAs) unbound) rfl holds
  rcases failed with ⟨unnamed, rfl⟩ | ⟨className, _, ⟨named, rfl⟩, failed⟩
  · exact .stuck (by simp) (.done holds)
      (.className (by simp [seenAs, View.IsContainer]) unnamed) rfl
      holds
  · exact variants_break confines keeps member
      (fun _ inside _ carried => .slot seenAs bound inside carried) holds failed

omit confines member in
theorem forM_yields (keeps : Keeps types held visit) {parts : List HostType}
    (members : ∀ part ∈ parts, types part) (holds : held before.2)
    (found : Yields (parts.forM visit) before () after) : Visits held visit parts before after := by
  induction parts generalizing before with
  | nil =>
    obtain ⟨-, rfl⟩ := yields_pure.mp found
    exact .done holds
  | cons part rest ih =>
    obtain ⟨_, between, first, second⟩ := yields_bind.mp found
    obtain ⟨next, same⟩ := keeps.yields (members part (List.mem_cons_self ..)) holds first
    exact .visit holds first same
      (ih (fun other later => members other (List.mem_cons_of_mem _ later)) next second)

omit confines member in
/-- Visits one after the other fail at the first one that does. -/
theorem forM_fails (keeps : Keeps types held visit) {parts : List HostType}
    (members : ∀ part ∈ parts, types part) (holds : held before.2)
    (failed : Fails (parts.forM visit) before failure after) :
    ∃ visited part rest between, parts = visited ++ part :: rest ∧
      Visits held visit visited before between ∧ Fails (visit part) between failure after := by
  induction parts generalizing before with
  | nil => exact (not_fails_pure failed).elim
  | cons part rest ih =>
    rcases fails_bind.mp failed with failed | ⟨_, between, first, failed⟩
    · exact ⟨[], part, rest, before, rfl, .done holds, failed⟩
    · obtain ⟨next, same⟩ := keeps.yields (members part (List.mem_cons_self ..)) holds first
      obtain ⟨visited, other, more, later, rfl, visits, failed⟩ :=
        ih (fun other later => members other (List.mem_cons_of_mem _ later)) next failed
      exact ⟨part :: visited, other, more, later, rfl, .visit holds first same visits, failed⟩

theorem container_breaks (keeps : Keeps types held visit) (isContainer : type.view.IsContainer)
    (holds : held before.2) (failed : Fails (type.parts.forM visit) before failure after) :
    Breaks model held visit type before failure after := by
  have offered : ∀ part ∈ type.parts, Offers model held type part :=
    fun _ inside => .argument isContainer inside
  obtain ⟨visited, part, rest, between, same, visits, failed⟩ :=
    forM_fails keeps (fun part inside => confines.offered member (offered part inside)) holds failed
  rw [same] at offered
  exact .inside (fun other inside => offered other (List.mem_append_left _ inside)) visits
    (offered part (List.mem_append_right _ (List.mem_cons_self ..))) visits.held_after failed

/-- A successful visit to the parts of a type comes to what the type is made of, and adds the class
that follows from it. The parts of a container are visited in a way of their own. -/
theorem visitParts_yields (keeps : Keeps types held visit)
    (keepsArgument : Keeps types held visitArgument) (holds : held before.2)
    (found : Yields (visitParts model visit visitArgument type) before () after) :
    ∃ chosen, (chosen = visit ∨ chosen = visitArgument) ∧ ∃ content entity between,
      Unfolds model held type content ∧ describe model before.1.target type content = .ok entity ∧
      Visits held chosen content.dependencies before between ∧
      after = (between.1.addTo entity, between.2) := by
  have container (isContainer : type.view.IsContainer)
      (found : Yields (type.parts.forM visitArgument) before () after) :
      ∃ chosen, (chosen = visit ∨ chosen = visitArgument) ∧ ∃ content entity between,
        Unfolds model held type content ∧
        describe model before.1.target type content = .ok entity ∧
        Visits held chosen content.dependencies before between ∧
        after = (between.1.addTo entity, between.2) :=
    ⟨visitArgument, .inr rfl, .container type.parts, none, after, .container isContainer, rfl,
      forM_yields keepsArgument
        (fun part inside => confines.offered member (.argument isContainer inside))
          holds found, rfl⟩
  unfold visitParts at found
  split at found
  case h_1 => exact (not_yields_throw found).elim
  case h_2 shown seenAs =>
    obtain ⟨-, rfl⟩ := yields_pure.mp found
    exact ⟨visit, .inl rfl, .primitive, none, before, .primitive seenAs, rfl, .done holds, rfl⟩
  case h_3 seenAs => exact container (seenAs ▸ trivial) found
  case h_4 seenAs => exact container (seenAs ▸ trivial) found
  case h_5 seenAs => exact container (seenAs ▸ trivial) found
  case h_6 seenAs => exact container (seenAs ▸ trivial) found
  case h_7 ref args seenAs =>
    simp only [yields_bind, yields_discard, yields_className, yields_modify] at found
    obtain ⟨_, _, ⟨className, named, rfl⟩, collected, between, visited, rfl⟩ := found
    obtain ⟨fields, unfolds, described, visits⟩ :=
      record_yields confines member keeps seenAs holds visited
    exact ⟨visit, .inl rfl, .record ref fields, _, between, unfolds, described, visits, rfl⟩
  case h_8 ref seenAs =>
    simp only [yields_bind, yields_className, yields_modify] at found
    obtain ⟨className, _, ⟨named, rfl⟩, rfl⟩ := found
    refine ⟨visit, .inl rfl, .enumeration ref,
      some (.enumeration (enumeration model ref className)), _, .enumeration seenAs, ?_,
      .done holds, rfl⟩
    simp only [describe, named]
    rfl
  case h_9 ref args seenAs =>
    simp only [yields_bind, yields_discard, yields_className, yields_modify] at found
    obtain ⟨_, _, ⟨className, named, rfl⟩, collected, between, visited, rfl⟩ := found
    obtain ⟨variants, unfolds, described, visits⟩ :=
      dataEnum_yields confines member keeps seenAs holds visited
    exact ⟨visit, .inl rfl, .dataEnum ref variants, _, between, unfolds, described, visits, rfl⟩

/-- A visit to the parts of a type that has an identity fails because the type is stuck, or
inside. -/
theorem visitParts_breaks (keeps : Keeps types held visit)
    (keepsArgument : Keeps types held visitArgument) {identity : Identity}
    (identified : type.view.identity = .ok identity) (holds : held before.2)
    (failed : Fails (visitParts model visit visitArgument type) before failure after) :
    ∃ chosen, (chosen = visit ∨ chosen = visitArgument) ∧
      Breaks model held chosen type before failure after := by
  have container (isContainer : type.view.IsContainer)
      (failed : Fails (type.parts.forM visitArgument) before failure after) :
      ∃ chosen, (chosen = visit ∨ chosen = visitArgument) ∧
        Breaks model held chosen type before failure after :=
    ⟨visitArgument, .inr rfl,
      container_breaks confines member keepsArgument isContainer holds failed⟩
  have unnamed {reason : Failure} {after : Collection × Memory} (isClass : ¬ type.view.IsContainer)
      (failed : type.view.className before.1.target = .error reason ∧ before = after) :
      ∃ chosen, (chosen = visit ∨ chosen = visitArgument) ∧
        Breaks model held chosen type before reason after := by
    obtain ⟨reason, rfl⟩ := failed
    exact ⟨visit, .inl rfl, .stuck (by simp) (.done holds) (.className isClass reason) rfl holds⟩
  unfold visitParts at failed
  split at failed
  case h_1 error seenAs =>
    rw [seenAs] at identified
    cases identified
  case h_2 => exact (not_fails_pure failed).elim
  case h_3 seenAs => exact container (seenAs ▸ trivial) failed
  case h_4 seenAs => exact container (seenAs ▸ trivial) failed
  case h_5 seenAs => exact container (seenAs ▸ trivial) failed
  case h_6 seenAs => exact container (seenAs ▸ trivial) failed
  case h_7 ref args seenAs =>
    simp only [fails_bind, fails_discard, fails_className, not_fails_modify, yields_discard,
      yields_className, and_false, exists_false, or_false] at failed
    rcases failed with failed | ⟨_, _, ⟨_, named, rfl⟩, failed⟩
    · exact unnamed (by simp [seenAs, View.IsContainer]) failed
    · exact ⟨visit, .inl rfl, record_breaks confines member keeps seenAs holds failed⟩
  case h_8 ref seenAs =>
    simp only [fails_bind, fails_className, not_fails_modify, and_false, exists_false, or_false]
      at failed
    exact unnamed (by simp [seenAs, View.IsContainer]) failed
  case h_9 ref args seenAs =>
    simp only [fails_bind, fails_discard, fails_className, not_fails_modify, yields_discard,
      yields_className, and_false, exists_false, or_false] at failed
    rcases failed with failed | ⟨_, _, ⟨_, named, rfl⟩, failed⟩
    · exact unnamed (by simp [seenAs, View.IsContainer]) failed
    · exact ⟨visit, .inl rfl, dataEnum_breaks confines member keeps seenAs holds failed⟩

end Parts

/-- What a visit to a type did if it succeeded: the type was met before and nothing happens, or it
is marked, what it is made of is visited with less depth, and its class is added. -/
inductive Added (model : Model) (held : Memory → Prop) (depth : Nat) (type : HostType)
    (before : Collection × Memory) : Collection × Memory → Prop
  | old {identity : Identity} :
      type.view.identity = .ok identity → identity ∈ before.1.seen →
      Added model held depth type before before
  | new {identity : Identity} {less : Nat} {content : Content} {entity : Option Schema.Entity}
      {between : Collection × Memory} :
      type.view.identity = .ok identity → identity ∉ before.1.seen → less < depth →
      Unfolds model held type content → describe model before.1.target type content = .ok entity →
      Visits held (addAt model less) content.dependencies (before.1.mark identity, before.2)
        between →
      Added model held depth type before (between.1.addTo entity, between.2)

/-- What a visit to a type did if it failed: nothing, because no depth is left or the type has no
identity, or it marked the type and broke inside. -/
inductive Refused (model : Model) (held : Memory → Prop) (depth : Nat) (type : HostType)
    (before : Collection × Memory) : Failure → Collection × Memory → Prop
  | tooDeep : Refused model held depth type before (.fault .tooDeep) before
  | unidentified {error : GenerationError} :
      type.view.identity = .error error →
        Refused model held depth type before (.generation error) before
  | inside {identity : Identity} {less : Nat} {failure : Failure} {after : Collection × Memory} :
      type.view.identity = .ok identity → identity ∉ before.1.seen → less < depth →
      Breaks model held (addAt model less) type (before.1.mark identity, before.2) failure after →
      Refused model held depth type before failure after

section Steps

variable {depth : Nat} (confines : Confines model types held) (member : types type)

include confines member

private theorem added_of (keeps : ∀ less < depth, Keeps types held (addAt model less))
    (holds : held before.2) (found : Yields (addAt model depth type) before () after) :
    Added model held depth type before after := by
  rcases depth with _ | _ | _ | depth
  · exact (not_yields_throw found).elim
  · exact (not_yields_throw found).elim
  · exact (not_yields_throw found).elim
  rw [addAt, yields_bind] at found
  obtain ⟨identity, _, known, found⟩ := found
  obtain ⟨identified, rfl⟩ := yields_ofRule.mp known
  split at found
  · obtain ⟨_, _, thrown, -⟩ := yields_bind.mp found
    exact (not_yields_throw thrown).elim
  simp only [yields_bind, yields_get] at found
  obtain ⟨_, _, ⟨rfl, rfl⟩, found⟩ := found
  by_cases old : identity ∈ before.1.seen
  · simp only [Collection.hasSeen, old, decide_true, if_true, yields_pure] at found
    obtain ⟨-, rfl⟩ := found
    exact .old identified old
  · simp only [Collection.hasSeen, old, decide_false, Bool.false_eq_true, if_false, yields_bind,
      yields_modify] at found
    obtain ⟨_, _, rfl, visited⟩ := found
    have marked : held (before.1.mark identity, before.2).2 := holds
    obtain ⟨_, chosen, content, entity, between, unfolds, described, visits, rfl⟩ :=
      visitParts_yields confines member (keeps depth (by omega)) (keeps (depth + 2) (by omega))
        marked visited
    rw [Collection.mark_target] at described
    rcases chosen with rfl | rfl
    · exact .new identified old (by omega) unfolds described visits
    · exact .new identified old (by omega) unfolds described visits

private theorem refused_of (keeps : ∀ less < depth, Keeps types held (addAt model less))
    (holds : held before.2) (failed : Fails (addAt model depth type) before failure after) :
    Refused model held depth type before failure after := by
  have tooDeep (failed : Fails (throw (.fault .tooDeep) : Collect Unit) before failure after) :
      Refused model held depth type before failure after := by
    obtain ⟨rfl, rfl⟩ := fails_throw.mp failed
    exact .tooDeep
  rcases depth with _ | _ | _ | depth
  · exact tooDeep failed
  · exact tooDeep failed
  · exact tooDeep failed
  rw [addAt, fails_bind] at failed
  rcases failed with failed | ⟨identity, _, known, failed⟩
  · obtain ⟨⟨error, unidentified, rfl⟩, rfl⟩ := fails_ofRule.mp failed
    exact .unidentified unidentified
  obtain ⟨identified, rfl⟩ := yields_ofRule.mp known
  split at failed
  · rcases fails_bind.mp failed with failed | ⟨_, _, thrown, -⟩
    · exact tooDeep failed
    · exact (not_yields_throw thrown).elim
  simp only [fails_bind, yields_get, not_fails_get, false_or] at failed
  obtain ⟨_, _, ⟨rfl, rfl⟩, failed⟩ := failed
  by_cases old : identity ∈ before.1.seen
  · simp only [Collection.hasSeen, old, decide_true, if_true] at failed
    exact (not_fails_pure failed).elim
  · simp only [Collection.hasSeen, old, decide_false, Bool.false_eq_true, if_false, fails_bind,
      not_fails_modify, yields_modify, false_or] at failed
    obtain ⟨_, _, rfl, failed⟩ := failed
    have marked : held (before.1.mark identity, before.2).2 := holds
    obtain ⟨_, chosen, breaks⟩ :=
      visitParts_breaks confines member (keeps depth (by omega)) (keeps (depth + 2) (by omega))
        identified marked failed
    rcases chosen with rfl | rfl
    · exact .inside identified old (by omega) breaks
    · exact .inside identified old (by omega) breaks

end Steps

/-- Each visit keeps to what collecting is confined to; the depth that is left carries the
induction. -/
theorem addAt_keeps (confines : Confines model types held) (depth : Nat) :
    Keeps types held (addAt model depth) := by
  induction depth using Nat.strongRecOn with
  | _ depth ih =>
  constructor
  case yields =>
    intro type before after member holds found
    cases added_of confines member ih holds found with
    | old _ _ => exact ⟨holds, rfl⟩
    | new _ _ _ _ _ visits =>
      refine ⟨visits.held_after, ?_⟩
      rw [Collection.addTo_target, visits.same_target, Collection.mark_target]
  case fails =>
    intro type before after failure member holds failed
    cases refused_of confines member ih holds failed with
    | tooDeep => exact ⟨holds, rfl⟩
    | unidentified _ => exact ⟨holds, rfl⟩
    | inside _ _ less breaks =>
      obtain ⟨kept, same⟩ := breaks.keeps (ih _ less) confines member
      exact ⟨kept, by rw [same, Collection.mark_target]⟩

theorem addAt_added (confines : Confines model types held) (member : types type)
    (holds : held before.2) {depth : Nat}
    (found : Yields (addAt model depth type) before () after) :
    Added model held depth type before after :=
  added_of confines member (fun less _ => addAt_keeps confines less) holds found

theorem addAt_refused (confines : Confines model types held) (member : types type)
    (holds : held before.2) {depth : Nat}
    (failed : Fails (addAt model depth type) before failure after) :
    Refused model held depth type before failure after :=
  refused_of confines member (fun less _ => addAt_keeps confines less) holds failed

end Collect

variable {model : Model} {start : Memory} {held : Memory → Prop} {types : HostType → Prop}

section Arises

variable (arises : ∀ memory, held memory → Arises model start memory) {ref : ClassRef}
  {bindings : TypeBindings}

include arises

theorem ClosesIn.closesTo {hint closed : HostType}
    (found : ClosesIn model held ref bindings hint closed) :
    ClosesTo model start ref bindings hint closed := by
  obtain ⟨memory, holds, found⟩ := found
  exact ⟨memory, arises memory holds, found⟩

theorem FieldRelates.closes {field closed : String × HostType}
    (related : FieldRelates (ClosesIn model held ref bindings) field closed) :
    FieldCloses model start ref bindings field closed :=
  ⟨related.1, related.2.closesTo arises⟩

theorem Payload.Relates.closes {declared closed : Payload}
    (related : declared.Relates (ClosesIn model held ref bindings) closed) :
    PayloadCloses model start ref bindings declared closed := by
  cases related with
  | unit => exact .unit
  | tuple slots => exact .tuple (slots.imp fun _ _ found => found.closesTo arises)
  | object fields => exact .object (fields.imp fun _ _ found => found.closes arises)

/-- What a type is made of is what its declarations say, if the memories that are held arise. -/
theorem Unfolds.hasContent {type : HostType} {content : Content}
    (unfolds : Unfolds model held type content) : HasContent model start type content := by
  cases unfolds with
  | primitive seenAs => exact .primitive seenAs
  | container isContainer => exact .container isContainer
  | record seenAs bound holds typed related =>
    exact .record seenAs bound (arises _ holds) typed (related.imp fun _ _ found =>
      found.closes arises)
  | enumeration seenAs => exact .enumeration seenAs
  | dataEnum seenAs bound related =>
    exact .dataEnum seenAs bound
      (related.imp fun _ _ found => ⟨found.1, found.2.1, found.2.2.closes arises⟩)

end Arises

/-- All types of a walk are among those that collecting is confined to, and made of what they are in
memories that are held. -/
def Within (model : Model) (types : HostType → Prop) (held : Memory → Prop)
    (walk : List Expansion) :
    Prop :=
  ∀ expansion ∈ walk, types expansion.type ∧ Unfolds model held expansion.type expansion.content

theorem Within.nil : Within model types held [] := by
  simp [Within]

/-- A walk from some roots leads from one collection to another, over types that collecting is
confined to. -/
def Spans (model : Model) (start : Memory) (types : HostType → Prop) (held : Memory → Prop)
    (roots : List HostType) (before after : Collection) : Prop :=
  ∃ walk, Walked model start roots before after walk ∧ Within model types held walk

theorem Spans.append {roots others : List HostType} {before between after : Collection}
    (first : Spans model start types held roots before between)
    (second : Spans model start types held others between after) :
    Spans model start types held (roots ++ others) before after := by
  obtain ⟨walk, walked, made⟩ := first
  obtain ⟨rest, more, madeMore⟩ := second
  exact ⟨walk ++ rest, walked.append more, List.forall_mem_append.mpr ⟨made, madeMore⟩⟩

namespace Collect

variable {visit : HostType → Collect Unit} {before after : Collection × Memory}

/-- Visits that walk on from each type walk on from all of them. -/
theorem Visits.spans {roots : List HostType} (visits : Visits held visit roots before after)
    (members : ∀ type ∈ roots, types type)
    (walks : ∀ {type : HostType} {before after : Collection × Memory}, types type → held before.2 →
      Yields (visit type) before () after → Spans model start types held [type] before.1 after.1) :
    Spans model start types held roots before.1 after.1 := by
  induction visits with
  | done _ => exact ⟨[], .refl _, .nil⟩
  | build _ ih => exact ih members
  | visit holds found _ _ ih =>
    obtain ⟨first, rest⟩ := List.forall_mem_cons.mp members
    exact (walks first holds found).append (ih rest)

/-- Each step of the walk walks on from its type; the depth that is left carries the induction. -/
theorem addAt_spans (confines : Confines model types held)
    (arises : ∀ memory, held memory → Arises model start memory) (depth : Nat) {type : HostType}
    {before after : Collection × Memory} (member : types type) (holds : held before.2)
    (found : Yields (addAt model depth type) before () after) :
    Spans model start types held [type] before.1 after.1 := by
  induction depth using Nat.strongRecOn generalizing type before after with
  | _ depth ih =>
  cases addAt_added confines member holds found with
  | old identified met => exact ⟨[], .old identified met, .nil⟩
  | @new identity less content entity between identified new shallower unfolds described visits =>
    have offered : ∀ part ∈ content.dependencies, types part :=
      fun _ inside => confines.offered member (unfolds.offers inside)
    obtain ⟨walk, inner, made⟩ :=
      visits.spans offered fun member holds found => ih less shallower member holds found
    let expansion : Expansion := ⟨type, identity, content, entity⟩
    have valid : expansion.Valid model start before.1.target :=
      ⟨identified, unfolds.hasContent arises, described⟩
    refine ⟨expansion :: walk, Walked.node valid new inner (Collection.addTo_target ..)
      (Collection.addTo_seen ..) (Collection.addTo_entities ..), ?_⟩
    exact List.forall_mem_cons.mpr ⟨⟨member, unfolds⟩, made⟩

/-- Collecting is confined to all types and to the memories that arise. -/
theorem confines_arises (model : Model) (start : Memory) :
    Confines model (fun _ => True) (Arises model start) where
  offered _ _ := trivial
  fields _ _ arises := .fields _ arises
  closing _ _ arises := .close _ _ _ arises

/-- A successful run over some roots is a walk. -/
theorem addAll_walked {target : Target} {memory : Memory} {roots : List HostType}
    {collection : Collection}
    (succeeds : ((addAll model roots).run.run (.empty target)).run start =
      ((.ok (), collection), memory)) :
    ∃ walk, Walked model start roots (.empty target) collection walk := by
  have run : Yields (addAll model roots) (.empty target, start) () (collection, memory) := succeeds
  have visits := forM_yields (addAt_keeps (confines_arises model start) maxDepth)
    (fun _ _ => trivial) .start run
  obtain ⟨walk, walked, -⟩ := visits.spans (fun _ _ => trivial)
    (addAt_spans (confines_arises model start) (fun _ arises => arises) maxDepth)
  exact ⟨walk, walked⟩

end Collect

end WireModel
