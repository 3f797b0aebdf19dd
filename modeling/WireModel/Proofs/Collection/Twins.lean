import WireModel.Proofs.Collection.Uniform

/-!
Two types of one identity, where no class tells spellings apart: they are made of types of the same
identities, describe one class, and stop a visit both or neither.
-/

namespace WireModel

variable {model : Model} {start : Memory} {target : Target} {held : Memory → Prop}
  {types : HostType → Prop} {roots : List HostType}

section Alike

variable {ref : ClassRef} {bindings others : TypeBindings} {relates : HostType → HostType → Prop}
  {hint other closed closedOther : HostType}

theorem ClosesAlike.mono {weaker : HostType → HostType → Prop}
    (alike : ClosesAlike model held ref bindings others relates hint other)
    (weaken : ∀ closed closedOther, relates closed closedOther → weaker closed closedOther) :
    ClosesAlike model held ref bindings others weaker hint other :=
  fun memory later holds holdsLater =>
    (alike memory later holds holdsLater).mono fun _ _ related _ _ => weaken _ _ related

theorem ClosesAlike.related (alike : ClosesAlike model held ref bindings others relates hint other)
    (closes : ClosesIn model held ref bindings hint closed)
    (closesOther : ClosesIn model held ref others other closedOther) :
    relates closed closedOther := by
  obtain ⟨memory, holds, found⟩ := closes
  obtain ⟨later, holdsLater, foundOther⟩ := closesOther
  have agree := alike memory later holds holdsLater
  rw [found, foundOther] at agree
  cases agree with
  | succeed related => exact related

/-- What closes in one instantiation closes in the other. -/
theorem ClosesAlike.not_fails
    (alike : ClosesAlike model held ref bindings others relates hint other)
    (closes : ClosesIn model held ref bindings hint closed) {memory : Memory} (holds : held memory)
    {failure : Failure} : ((model.close ref others other).run.run memory).1 ≠ .error failure := by
  obtain ⟨first, holdsFirst, found⟩ := closes
  intro failed
  have agree := alike first memory holdsFirst holds
  rw [found, failed] at agree
  cases agree

theorem PayloadAlike.of_mem {payload : Payload}
    (alike : PayloadAlike model held ref bindings others payload) (member : hint ∈ payload.types) :
    ClosesAlike model held ref bindings others HostType.SameIdentity hint hint := by
  cases payload with
  | unit => cases member
  | tuple slots => exact alike hint member
  | object fields =>
    obtain ⟨field, inside, rfl⟩ := List.mem_map.mp member
    exact (alike field inside).2.mono fun _ _ same => same.1

theorem Payload.Relates.exists_image {declared image : Payload}
    (related : declared.Relates relates image) (member : hint ∈ declared.types) :
    ∃ part ∈ image.types, relates hint part := by
  cases related with
  | unit => cases member
  | tuple slots => exact Outcome.exists_related slots member
  | object fields =>
    obtain ⟨field, inside, rfl⟩ := List.mem_map.mp member
    obtain ⟨other, found, -, same⟩ := Outcome.exists_related fields inside
    exact ⟨other.2, List.mem_map_of_mem found, same⟩

end Alike

section Unfolds

variable {type : HostType} {content : Content} (unfolds : Unfolds model held type content)

include unfolds

theorem Unfolds.of_container (isContainer : type.view.IsContainer) :
    content = .container type.parts := by
  cases unfolds with
  | container => rfl
  | primitive seenAs | enumeration seenAs | record seenAs | dataEnum seenAs =>
    rw [seenAs] at isContainer
    exact isContainer.elim

theorem Unfolds.of_record {ref : ClassRef} {args : List View}
    (seenAs : type.view = .record ref args) :
    ∃ bindings memory fields closed, content = .record ref closed ∧
      Collect.bindings model ref type = .ok bindings ∧ held memory ∧
      ((model.typedFields ref).run.run memory).1 = .ok fields ∧
      List.Forall₂ (FieldRelates (ClosesIn model held ref bindings)) fields closed := by
  cases unfolds with
  | record shown bound holds typed closes =>
    cases shown.symm.trans seenAs
    exact ⟨_, _, _, _, rfl, bound, holds, typed, closes⟩
  | container isContainer =>
    rw [seenAs] at isContainer
    exact isContainer.elim
  | primitive shown | enumeration shown | dataEnum shown => cases shown.symm.trans seenAs

theorem Unfolds.of_dataEnum {ref : ClassRef} {args : List View}
    (seenAs : type.view = .dataEnum ref args) :
    ∃ bindings closed, content = .dataEnum ref closed ∧
      Collect.bindings model ref type = .ok bindings ∧
      List.Forall₂ (Variant.Relates (ClosesIn model held ref bindings)) (model.variants ref)
        closed := by
  cases unfolds with
  | dataEnum shown bound closes =>
    cases shown.symm.trans seenAs
    exact ⟨_, _, rfl, bound, closes⟩
  | container isContainer =>
    rw [seenAs] at isContainer
    exact isContainer.elim
  | primitive shown | enumeration shown | record shown => cases shown.symm.trans seenAs

theorem Unfolds.exists_bindings {ref : ClassRef} {args : List View}
    (seenAs : type.view = .record ref args ∨ type.view = .dataEnum ref args) :
    ∃ bindings, Collect.bindings model ref type = .ok bindings := by
  rcases seenAs with seenAs | seenAs
  · obtain ⟨bindings, _, _, _, -, bound, -⟩ := unfolds.of_record seenAs
    exact ⟨bindings, bound⟩
  · obtain ⟨bindings, _, -, bound, -⟩ := unfolds.of_dataEnum seenAs
    exact ⟨bindings, bound⟩

/-- A type that is seen like an instantiation of a class is one too. -/
theorem Unfolds.both_bind {other : HostType} (same : type.view = other.view) {ref : ClassRef}
    {args : List View} (seenAs : type.view = .record ref args ∨ type.view = .dataEnum ref args) :
    ∃ bindings others, Collect.bindings model ref type = .ok bindings ∧
      Collect.bindings model ref other = .ok others := by
  have kept : type.view.args? = some args := by
    rcases seenAs with seenAs | seenAs <;> rw [seenAs] <;> rfl
  have agree : Outcome.Agree (fun bound boundOther => Collect.bindings model ref type = .ok bound ∧
      Collect.bindings model ref other = .ok boundOther)
      (Collect.bindings model ref type) (Collect.bindings model ref other) :=
    Collect.bindings_agree kept same ref
  obtain ⟨bindings, bound⟩ := unfolds.exists_bindings seenAs
  generalize Collect.bindings model ref other = outcome at agree
  rw [bound] at agree
  cases agree with
  | succeed related => exact ⟨_, _, bound, rfl⟩

end Unfolds

namespace Collect

theorem describeFields_typeExpr {fields : List (String × HostType)} {described : List Schema.Field}
    (found : fields.mapM (describeField target) = .ok described) :
    ∀ field ∈ fields, ∃ expression, field.2.view.typeExpr target = .ok expression := by
  intro field inside
  obtain ⟨result, -, same⟩ := Outcome.exists_related (Outcome.mapM_ok.mp found) inside
  obtain ⟨expression, typed, -⟩ := Outcome.bind_ok.mp same
  exact ⟨expression, typed⟩

theorem describePayload_typeExpr {payload : Payload} {described : Schema.Payload}
    (found : describePayload target payload = .ok described) :
    ∀ part ∈ payload.types, ∃ expression, part.view.typeExpr target = .ok expression := by
  intro part inside
  cases payload with
  | unit => cases inside
  | tuple slots =>
    obtain ⟨expressions, typed, -⟩ := Outcome.bind_ok.mp found
    obtain ⟨expression, -, same⟩ := Outcome.exists_related (Outcome.mapM_ok.mp typed) inside
    exact ⟨expression, same⟩
  | object fields =>
    obtain ⟨described, found, -⟩ := Outcome.bind_ok.mp found
    obtain ⟨field, declared, rfl⟩ := List.mem_map.mp inside
    exact describeFields_typeExpr found field declared

/-- A class that is described has type expressions for all that it is made of. -/
theorem describe_typeExpr {type part : HostType} {content : Content} {entity : Option Schema.Entity}
    (found : describe model target type content = .ok entity)
    (isClass : ∀ args, content ≠ .container args) (member : part ∈ content.dependencies) :
    ∃ expression, part.view.typeExpr target = .ok expression := by
  cases content with
  | primitive => cases member
  | container args => exact (isClass args rfl).elim
  | record ref fields =>
    simp only [describe, Outcome.bind_ok] at found
    obtain ⟨_, -, _, described, -⟩ := found
    obtain ⟨field, inside, rfl⟩ := List.mem_map.mp member
    exact describeFields_typeExpr described field inside
  | enumeration ref => cases member
  | dataEnum ref variants =>
    simp only [describe, Outcome.bind_ok] at found
    obtain ⟨_, -, _, described, -⟩ := found
    obtain ⟨declared, inside, carried⟩ := List.mem_flatMap.mp member
    obtain ⟨result, -, same⟩ := Outcome.exists_related (Outcome.mapM_ok.mp described) inside
    obtain ⟨payload, carries, -⟩ := Outcome.bind_ok.mp same
    exact describePayload_typeExpr carries part carried

/-- A class that is described has a name. -/
theorem describe_className {type : HostType} {content : Content} {entity : Option Schema.Entity}
    (unfolds : Unfolds model held type content)
    (found : describe model target type content = .ok entity) (isClass : ¬ type.view.IsContainer) :
    ∃ className, type.view.className target = .ok className := by
  cases unfolds with
  | primitive seenAs =>
    rw [seenAs]
    exact ⟨_, rfl⟩
  | container isContainer => exact (isClass isContainer).elim
  | record _ _ _ _ _ | enumeration _ | dataEnum _ _ _ =>
    obtain ⟨className, named, -⟩ := Outcome.bind_ok.mp found
    exact ⟨className, named⟩

end Collect

section Twins

variable {type other : HostType} {identity : Identity} {content contentOther : Content}
  (apart : model.NamesApart) (uniform : UniformOn model start roots types held)
    (member : types type)
  (memberOther : types other) (identified : type.view.identity = .ok identity)
  (identifiedOther : other.view.identity = .ok identity)

include apart uniform member memberOther identified identifiedOther

/-- A part that one type declares has a counterpart in what the other is made of. -/
theorem Unfolds.counterpart (unfolds : Unfolds model held type content) {ref : ClassRef}
    {others : TypeBindings} {hint : HostType} (known : HasHint model held other ref others hint) :
    (∀ args, content ≠ .container args) ∧
      ∃ bindings source, ∃ part ∈ content.dependencies,
        ClosesIn model held ref bindings source part ∧
        ClosesAlike model held ref bindings others HostType.SameIdentity source hint := by
  have same := apart.view_eq (uniform.declares member) (uniform.declares memberOther) identified
    identifiedOther
  cases known with
  | field seenAsOther boundOther holdsLater typedOther inside =>
    have seenAs := same.trans seenAsOther
    obtain ⟨bindings, memory, fields, closed, rfl, bound, holds, typed, closes⟩ :=
      unfolds.of_record seenAs
    have agree := uniform.respects.fields member memberOther identified identifiedOther seenAs bound
      boundOther _ _ holds holdsLater
    rw [typed, typedOther] at agree
    cases agree with
    | succeed alike =>
      obtain ⟨source, declares, alike⟩ := Outcome.exists_related alike.flip inside
      obtain ⟨part, found, closing⟩ := Outcome.exists_related closes declares
      exact ⟨by simp, bindings, source.2, part.2, List.mem_map_of_mem found, closing.2,
        alike.2.mono fun _ _ same => same.1⟩
  | slot seenAsOther boundOther inside carried =>
    have seenAs := same.trans seenAsOther
    obtain ⟨bindings, closed, rfl, bound, closes⟩ := unfolds.of_dataEnum seenAs
    have alike :=
      uniform.respects.variants member memberOther identified identifiedOther seenAs bound
      boundOther _ inside
    obtain ⟨image, found, -, -, related⟩ := Outcome.exists_related closes inside
    obtain ⟨part, carries, closing⟩ := related.exists_image carried
    exact ⟨by simp, bindings, hint, part, List.mem_flatMap.mpr ⟨image, found, carries⟩, closing,
      alike.of_mem carried⟩

/-- What one type offers has the identity of something that the other is made of. -/
theorem Unfolds.offered (unfolds : Unfolds model held type content) {part : HostType}
    (offers : Offers model held other part) :
    ∃ twin ∈ content.dependencies, twin.SameIdentity part := by
  have same := apart.view_eq (uniform.declares member) (uniform.declares memberOther) identified
    identifiedOther
  cases offers with
  | argument isContainer inside =>
    have isContainer : type.view.IsContainer := same ▸ isContainer
    obtain ⟨args, kept⟩ := isContainer.exists_args
    rw [unfolds.of_container isContainer]
    have seen := List.mem_map_of_mem (f := HostType.view) inside
    rw [← HostType.map_view_parts same kept] at seen
    obtain ⟨twin, made, alike⟩ := List.mem_map.mp seen
    exact ⟨twin, made, by rw [HostType.SameIdentity, alike]⟩
  | part known closes =>
    obtain ⟨-, bindings, source, twin, made, closing, alike⟩ :=
      unfolds.counterpart apart uniform member memberOther identified identifiedOther known
    exact ⟨twin, made, alike.related closing closes⟩

/-- A type does not stop its visit if the class of another one of its identity is described. -/
theorem Unfolds.not_stuck (unfolds : Unfolds model held type content)
    {entity : Option Schema.Entity}
    (described : Collect.describe model target type content = .ok entity)
    (identities : ∀ part ∈ content.dependencies, ∃ found, part.view.identity = .ok found)
    {failure : Failure} : ¬ Collect.Stuck model held target other failure := by
  have same := apart.view_eq (uniform.declares member) (uniform.declares memberOther) identified
    identifiedOther
  intro stuck
  cases stuck with
  | className isClass failed =>
    obtain ⟨className, named⟩ := Collect.describe_className unfolds described (same ▸ isClass)
    rw [same, failed] at named
    cases named
  | bindings seenAs failed =>
    rw [← same] at seenAs
    obtain ⟨_, _, -, bound⟩ := unfolds.both_bind same seenAs
    rw [failed] at bound
    cases bound
  | fields seenAs holds failed =>
    have seenAs := same.trans seenAs
    obtain ⟨bindings, others, bound, boundOther⟩ := unfolds.both_bind same (.inl seenAs)
    obtain ⟨_, memory, fields, closed, -, -, holdsFirst, typed, -⟩ := unfolds.of_record seenAs
    have agree := uniform.respects.fields member memberOther identified identifiedOther seenAs bound
      boundOther _ _ holdsFirst holds
    rw [typed, failed] at agree
    cases agree
  | closing known holds failed =>
    obtain ⟨-, bindings, source, twin, -, closing, alike⟩ :=
      unfolds.counterpart apart uniform member memberOther identified identifiedOther known
    exact alike.not_fails closing holds failed
  | typeExpr known closes failed =>
    obtain ⟨isClass, bindings, source, twin, made, closing, alike⟩ :=
      unfolds.counterpart apart uniform member memberOther identified identifiedOther known
    have insideTwin := uniform.confines.offered member (unfolds.offers made)
    have inside := uniform.confines.offered memberOther (.part known closes)
    obtain ⟨found, identifiedTwin⟩ := identities twin made
    have alike :=
      apart.view_eq (uniform.declares insideTwin) (uniform.declares inside) identifiedTwin
      ((alike.related closing closes).identified identifiedTwin)
    obtain ⟨expression, typed⟩ := Collect.describe_typeExpr described isClass made
    rw [alike, failed] at typed
    cases typed

omit identified identifiedOther in
theorem twins_view_eq {ref : ClassRef} {bindings others : TypeBindings} {hint source : HostType}
    (known : HasHint model held type ref bindings hint)
    (knownOther : HasHint model held other ref others source) {closed closedOther : HostType}
    (closes : ClosesIn model held ref bindings hint closed)
    (closesOther : ClosesIn model held ref others source closedOther)
    (same : closed.SameIdentity closedOther) (found : ∃ known, closed.view.identity = .ok known) :
    closed.view = closedOther.view := by
  obtain ⟨known', found⟩ := found
  exact apart.view_eq (uniform.declares (uniform.confines.offered member (.part known closes)))
    (uniform.declares (uniform.confines.offered memberOther (.part knownOther closesOther))) found
    (same.identified found)

omit identified identifiedOther in
theorem describeFields_eq {ref : ClassRef} {bindings others : TypeBindings}
    {fields anothers closed closedOther : List (String × HostType)}
    (known : ∀ field ∈ fields, HasHint model held type ref bindings field.2)
    (knownOther : ∀ field ∈ anothers, HasHint model held other ref others field.2)
    (alike : List.Forall₂ (FieldsAlike model held ref bindings others) fields anothers)
    (closes : List.Forall₂ (FieldRelates (ClosesIn model held ref bindings)) fields closed)
    (closesOther : List.Forall₂ (FieldRelates (ClosesIn model held ref others)) anothers
      closedOther)
    (identities : ∀ field ∈ closed, ∃ found, field.2.view.identity = .ok found) :
    closed.mapM (Collect.describeField target) =
      closedOther.mapM (Collect.describeField target) := by
  refine Outcome.mapM_congr (Outcome.forall₂_join alike closes closesOther ?_)
  intro field inside another insideOther ⟨named, alike⟩ image made ⟨kept, closing⟩ imageOther
    ⟨keptOther, closingOther⟩
  obtain ⟨same, tag⟩ := alike.related closing closingOther
  have seen := twins_view_eq apart uniform member memberOther (known field inside)
    (knownOther another insideOther) closing closingOther same (identities image made)
  simp only [Collect.describeField, kept, keptOther, named, tag, seen]

omit identified identifiedOther in
theorem describePayload_eq {ref : ClassRef} {bindings others : TypeBindings}
    {declared closed closedOther : Payload}
    (known : ∀ hint ∈ declared.types, HasHint model held type ref bindings hint)
    (knownOther : ∀ hint ∈ declared.types, HasHint model held other ref others hint)
    (alike : PayloadAlike model held ref bindings others declared)
    (closes : declared.Relates (ClosesIn model held ref bindings) closed)
    (closesOther : declared.Relates (ClosesIn model held ref others) closedOther)
    (identities : ∀ part ∈ closed.types, ∃ found, part.view.identity = .ok found) :
    Collect.describePayload target closed = Collect.describePayload target closedOther := by
  cases closes with
  | unit =>
    cases closesOther
    rfl
  | tuple slots =>
    cases closesOther with
    | tuple slotsOther =>
      have expressions :=
        Outcome.mapM_congr (Outcome.forall₂_join (List.forall₂_same.mpr alike) slots
        slotsOther fun hint inside another insideOther alike image made closing imageOther
          closingOther =>
          congrArg (View.typeExpr target) (twins_view_eq apart uniform member memberOther
            (known hint inside) (knownOther another insideOther) closing closingOther
            (alike.related closing closingOther) (identities image made)))
      simp only [Collect.describePayload, expressions]
  | @object _ image fields =>
    cases closesOther with
    | @object _ imageOther fieldsOther =>
      have described : image.mapM (Collect.describeField target) =
          imageOther.mapM (Collect.describeField target) :=
        describeFields_eq apart uniform member memberOther (List.forall_mem_map.mp known)
          (List.forall_mem_map.mp knownOther) (List.forall₂_same.mpr alike) fields fieldsOther
          fun field inside => identities field.2 (List.mem_map_of_mem inside)
      simp only [Collect.describePayload, described]

/-- Both types describe one class. -/
theorem Unfolds.describe_eq (unfolds : Unfolds model held type content)
    (unfoldsOther : Unfolds model held other contentOther)
    (identities : ∀ part ∈ content.dependencies, ∃ found, part.view.identity = .ok found) :
    Collect.describe model target type content =
      Collect.describe model target other contentOther := by
  have same := apart.view_eq (uniform.declares member) (uniform.declares memberOther) identified
    identifiedOther
  cases unfolds with
  | primitive seenAs =>
    cases unfoldsOther with
    | primitive _ => rfl
    | container isContainer =>
      rw [← same, seenAs] at isContainer
      exact isContainer.elim
    | record shown | enumeration shown | dataEnum shown =>
      cases seenAs.symm.trans (same.trans shown)
  | container isContainer =>
    rw [unfoldsOther.of_container (same ▸ isContainer)]
    rfl
  | enumeration seenAs =>
    cases unfoldsOther with
    | enumeration shown =>
      cases seenAs.symm.trans (same.trans shown)
      simp only [Collect.describe, same]
    | container isContainer =>
      rw [← same, seenAs] at isContainer
      exact isContainer.elim
    | primitive shown | record shown | dataEnum shown => cases seenAs.symm.trans (same.trans shown)
  | @record ref _ bindings memory fields closed seenAs bound holds typed closes =>
    have seenAsOther := same.symm.trans seenAs
    obtain ⟨others, later, anothers, closedOther, rfl, boundOther, holdsLater, typedOther,
      closesOther⟩ :=
      unfoldsOther.of_record seenAsOther
    have agree := uniform.respects.fields member memberOther identified identifiedOther seenAs bound
      boundOther _ _ holds holdsLater
    rw [typed, typedOther] at agree
    cases agree with
    | succeed alike =>
      have described : closed.mapM (Collect.describeField target) =
          closedOther.mapM (Collect.describeField target) :=
        describeFields_eq apart uniform member memberOther
          (fun _ inside => .field seenAs bound holds typed inside)
          (fun _ inside => .field seenAsOther boundOther holdsLater typedOther inside) alike closes
          closesOther fun field inside => identities field.2 (List.mem_map_of_mem inside)
      simp only [Collect.describe, same, described]
  | @dataEnum ref _ bindings closed seenAs bound closes =>
    have seenAsOther := same.symm.trans seenAs
    obtain ⟨others, closedOther, rfl, boundOther, closesOther⟩ :=
      unfoldsOther.of_dataEnum seenAsOther
    have alike :=
      uniform.respects.variants member memberOther identified identifiedOther seenAs bound
      boundOther
    have described : closed.mapM (Collect.describeVariant target) =
        closedOther.mapM (Collect.describeVariant target) := by
      have link : List.Forall₂ (fun declared another => another = declared ∧
          PayloadAlike model held ref bindings others declared.payload) (model.variants ref)
          (model.variants ref) :=
        List.forall₂_same.mpr fun declared inside => ⟨rfl, alike declared inside⟩
      refine Outcome.mapM_congr (Outcome.forall₂_join link closes closesOther ?_)
      rintro declared inside _ - ⟨rfl, alike⟩ image made ⟨named, renamed, carried⟩ imageOther
        ⟨namedOther, renamedOther, carriedOther⟩
      have payload : Collect.describePayload target image.payload =
          Collect.describePayload target imageOther.payload :=
        describePayload_eq apart uniform member memberOther
          (fun _ carries => .slot seenAs bound inside carries)
          (fun _ carries => .slot seenAsOther boundOther inside carries) alike carried carriedOther
          fun part carries => identities part (List.mem_flatMap.mpr ⟨image, made, carries⟩)
      simp only [Collect.describeVariant, Variant.tag, named, renamed, namedOther,
        renamedOther, payload]
    simp only [Collect.describe, same, described]

end Twins

end WireModel
