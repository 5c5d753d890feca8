import StockMarket.Profiles.StoreLaws

/-! A deleted profile only comes back through a change of it that was already on the way. -/

namespace StockMarket

/-- The identifiers of the rows that a request may introduce. -/
def ProfileRequest.newIds : ProfileRequest → List UUID
  | .create id _ => [id]
  | .seed _ _ _ draws => draws.map SeedDraw.id
  | _ => []

/-- The profile that a request changes, if it changes one. -/
def ProfileRequest.patched : ProfileRequest → Option UUID
  | .patch id _ => some id
  | _ => none

namespace ProfileProgram

/-- An operation may store a row under an identifier that had none. -/
def Introduces (id : UUID) : ProfileOp → Prop
  | .insert profile => profile.id = id
  | .updateOrCreate profile => profile.id = id
  | _ => False

/-- A profile that is read has the identifier it is read by, and perhaps a property. -/
def ReadsAs (holds : UUID → Prop) : (op : ProfileOp) → op.Reply → Prop
  | .get id, some profile => profile.id = id ∧ holds id
  | _, _ => True

section Requests

variable {id : UUID} {told : (op : ProfileOp) → op.Reply → Prop}

/-- A save of another profile introduces nothing under an identifier. -/
theorem save_introduces (profile : TraderProfile) (other : profile.id ≠ id) :
    profile.save.Honors (fun op => ¬ Introduces id op) told fun _ => True := by
  refine ⟨fun introduced => introduced, fun reply _ => ?_⟩
  cases reply with
  | none => exact trivial
  -- A row that has vanished is inserted, under the other identifier.
  | some updated =>
    cases updated with
    | true => exact trivial
    | false => exact ⟨other, fun _ _ => trivial⟩

/-- Writing demo traders introduces no rows but theirs. -/
theorem seedRows_introduces {center : Int} (strategy : Strategy) (symbol : String)
    (draws : List (SeedDraw center)) (fresh : ∀ draw ∈ draws, draw.id ≠ id) :
    ∀ index created updated, (seedRows strategy symbol draws index created updated).Honors
      (fun op => ¬ Introduces id op) told fun _ => True := by
  -- The induction is over the rows that are drawn; each is written under its own identifier.
  induction draws with
  | nil => exact fun _ _ _ => trivial
  | cons draw draws ih =>
    have rest := ih fun other member => fresh other (List.mem_cons_of_mem _ member)
    intro index created updated
    refine ⟨fresh draw List.mem_cons_self, fun reply _ => ?_⟩
    cases reply with
    | none => exact trivial
    | some made =>
      cases made with
      | true => exact rest _ _ _
      | false => exact rest _ _ _

/-- A request introduces its new rows, and the row that it changes if that row has been read. -/
theorem program_introduces (id : UUID) (told : (op : ProfileOp) → op.Reply → Prop)
    {call : ProfileCall} (fresh : id ∉ call.request.newIds)
    (reads : ∀ other ∈ call.request.patched, ∀ profile, told (.get other) (some profile) →
      profile.id ≠ id) :
    call.program.Honors (fun op => ¬ Introduces id op) told fun _ => True := by
  obtain ⟨settings, request⟩ := call
  -- Looking for a name or a user brings in no row.
  have looks (fields : ProfileFields) (stored : Option TraderProfile) :=
    serialize_honors (fun op => ¬ Introduces id op) told fields stored
      settings.isSimulatedSymbol (fun _ _ introduced => introduced)
      (fun _ _ introduced => introduced)
  cases request with
  | list => exact ⟨fun introduced => introduced, fun _ _ => trivial⟩
  -- A new profile has an identifier of its own, which is not the one asked about.
  | create other fields =>
    have apart : other ≠ id := fun same => fresh (same ▸ List.mem_singleton_self other)
    show (createProfile settings other fields).Honors _ _ _
    unfold createProfile
    split
    · exact trivial
    · refine (looks fields none).bind fun result _ => ?_
      cases result with
      | error errors => exact trivial
      | ok attrs =>
        refine ⟨apart, fun made _ => ?_⟩
        cases made <;> exact trivial
  | detail other =>
    refine ⟨fun introduced => introduced, fun reply _ => ?_⟩
    cases reply <;> exact trivial
  | patch other fields =>
    refine ⟨fun introduced => introduced, fun reply known => ?_⟩
    cases reply with
    | none => exact trivial
    | some profile =>
      -- What is saved has the identifier of what was read.
      have apart := reads other rfl profile known
      show Program.Honors _ _ _ (if _ then _ else _)
      split
      · exact trivial
      · refine (looks fields (some profile)).bind fun result _ => ?_
        cases result with
        | error errors => exact trivial
        | ok attrs =>
          refine (save_introduces (attrs.applyTo profile) apart).bind fun saved _ => ?_
          cases saved <;> exact trivial
  -- A removal brings in no row.
  | remove other =>
    refine ⟨fun introduced => introduced, fun reply _ => ?_⟩
    cases reply with
    | none => exact trivial
    | some profile =>
      show Program.Honors _ _ _ (if _ then _ else _)
      split
      · exact trivial
      · exact ⟨fun introduced => introduced, fun _ _ => trivial⟩
  -- The identifiers of the seeds are new, and so none of them is the one asked about.
  | seed strategy symbol closePrice draws =>
    show (seedTraders settings strategy symbol closePrice draws).Honors _ _ _
    unfold seedTraders
    simp only
    split
    · exact trivial
    · split
      · exact trivial
      · refine seedRows_introduces strategy _ draws (fun draw member same => ?_) 1 0 0
        exact fresh (List.mem_map.mpr ⟨draw, member, same⟩)

end Requests

end ProfileProgram

namespace ProfileTable

variable {table : ProfileTable} {profile : TraderProfile} {id : UUID}

/-- Rows are stored under their identifiers. -/
def Keyed (table : ProfileTable) : Prop :=
  ∀ id profile, table.get? id = some profile → profile.id = id

/-- Every operation leaves the rows under their identifiers. -/
theorem Keyed.step (keyed : table.Keyed) {op : ProfileOp} {after : ProfileTable}
    (stepped : Stepped table op after) : after.Keyed := by
  -- A step leaves the table, deletes a row or writes one under its own identifier.
  cases stepped with
  | same => exact keyed
  | deleted id asked =>
    intro other profile found
    rw [Dict.get?_erase] at found
    split at found
    · cases found
    · exact keyed other profile found
  -- The row that is written stands under its own identifier.
  | written profile asked accepted =>
    intro other row found
    rw [Dict.get?_set] at found
    split at found
    · rename_i same
      cases found
      exact same.symm
    · exact keyed other row found

/-- An insertion of another row leaves an identifier without a row. -/
theorem insert_absent (absent : table.get? id = none) (other : profile.id ≠ id) :
    (table.insert profile).1.get? id = none := by
  unfold insert
  cases found : table.get? profile.id with
  | some row => exact absent
  | none =>
    simp only
    -- A row that is inserted has another identifier.
    split_ifs
    · rw [Dict.get?_set, if_neg (Ne.symm other)]
      exact absent
    · exact absent

/-- An update needs a row, so it does not make one. -/
theorem update_absent (absent : table.get? id = none) : (table.update profile).1.get? id = none := by
  unfold update
  cases found : table.get? profile.id with
  | none => exact absent
  | some row =>
    -- The row that is updated exists, and so it is another one.
    have other : id ≠ profile.id := by
      intro same
      rw [same, found] at absent
      cases absent
    simp only
    split_ifs
    · rw [Dict.get?_set, if_neg other]
      exact absent
    · exact absent

/-- An operation that introduces no row under an identifier leaves it without one. -/
theorem exec_absent (collates : String → String → Bool) {op : ProfileOp}
    (absent : table.get? id = none) (leaves : ¬ ProfileProgram.Introduces id op) :
    (table.exec collates op).1.get? id = none := by
  cases op with
  | nameTaken name own => exact absent
  | userIdTaken userId own => exact absent
  | get other => exact absent
  | all => exact absent
  | insert profile => exact insert_absent absent leaves
  | update profile => exact update_absent absent
  | delete other =>
    simp only [exec, Dict.get?_erase]
    split_ifs
    · rfl
    · exact absent
  | updateOrCreate profile =>
    simp only [exec, updateOrCreate]
    -- The row of the user is updated, or a new one is inserted.
    cases found : table.rows.find? fun row => row.userId = profile.userId with
    | some row => exact update_absent absent
    | none =>
      have inserted := insert_absent absent leaves
      simp only
      generalize table.insert profile = result at inserted ⊢
      obtain ⟨after, made⟩ := result
      cases made <;> exact inserted

end ProfileTable

section Runs

variable (collates : String → String → Bool) (id : UUID)

/-- Reading a row by its identifier shows a row with it. -/
theorem exec_readsAs (holds : UUID → Prop) {table : ProfileTable} (keyed : table.Keyed)
    (stored : ∀ other profile, table.get? other = some profile → holds other) (op : ProfileOp) :
    ProfileProgram.ReadsAs holds op (table.exec collates op).2 := by
  -- Only one of the operations reads a row by its identifier.
  cases op with
  | get other =>
    simp only [ProfileTable.exec]
    cases found : table.get? other with
    | none => exact trivial
    | some profile => exact ⟨keyed other profile found, stored other profile found⟩
  | nameTaken name own => exact trivial
  | userIdTaken userId own => exact trivial
  | all => exact trivial
  | insert profile => exact trivial
  | update profile => exact trivial
  | delete id => exact trivial
  | updateOrCreate profile => exact trivial

/-- A request neither has an identifier for a new row nor changes the row that has it. -/
def ProfileCall.Leaves (call : ProfileCall) : Prop :=
  id ∉ call.request.newIds ∧ id ∉ call.request.patched

/-- Requests that have nothing to do with an identifier never introduce a row under it. -/
def leavingContract : Contract (profileService collates) where
  holds := ProfileTable.Keyed
  good := fun call op => call.Leaves id → ¬ ProfileProgram.Introduces id op
  told := ProfileProgram.ReadsAs fun _ => True
  admits := fun _ => True
  answers := fun _ _ => True
  performs := by
    intro table _ _ op after reply keyed _ executed
    have same : table.exec collates op = (after, reply) := Option.some.inj executed
    have stepped := ProfileTable.exec_stepped table collates op
    have known := exec_readsAs collates (fun _ => True) keyed (fun _ _ _ => trivial) op
    rw [same] at stepped known
    exact ⟨keyed.step stepped, known⟩
  serves := by
    intro table _ call after program keyed _ served
    cases served
    refine ⟨keyed, ?_⟩
    by_cases leaves : call.Leaves id
    · have honors := ProfileProgram.program_introduces id
        (ProfileProgram.ReadsAs fun _ => True) leaves.1 fun other patched profile known => ?_
      · exact honors.allow fun op allowed _ => allowed
      · rintro rfl
        rw [known.1] at leaves
        exact leaves.2 patched
    · exact Program.honors_of_all (fun op asked => absurd asked leaves) fun _ => trivial

/-- While a row is gone, requests do not bring it back, for they do not read it. -/
def goneContract : Contract (profileService collates) where
  holds := fun table => table.Keyed ∧ table.get? id = none
  good := fun _ op => ¬ ProfileProgram.Introduces id op
  told := ProfileProgram.ReadsAs (· ≠ id)
  admits := fun call => id ∉ call.request.newIds
  answers := fun _ _ => True
  performs := by
    intro table _ _ op after reply held leaves executed
    have same : table.exec collates op = (after, reply) := Option.some.inj executed
    have stepped := ProfileTable.exec_stepped table collates op
    have absent := ProfileTable.exec_absent collates held.2 leaves
    have known := exec_readsAs collates (· ≠ id) held.1
      (fun other profile found gone => by rw [gone, held.2] at found; cases found) op
    rw [same] at stepped absent known
    exact ⟨⟨held.1.step stepped, absent⟩, known⟩
  serves := by
    intro table _ call after program held fresh served
    cases served
    refine ⟨held, ProfileProgram.program_introduces id _ fresh fun other _ profile known => ?_⟩
    rw [known.1]
    exact known.2

/--
A profile that is gone stays gone, whatever requests follow and however they interleave.

This takes that no request on the way is a change of it, which may have read it before, and that new
rows have new identifiers. Later changes of it may arrive, and find nothing.
-/
theorem deleted_stays_deleted (first later : List ProfileTurn) :
    let middle := (Machine.runTotal (Shared.step (profileService collates)) ProfileSystem.new first).1
    middle.store.get? id = none →
      (∀ thread call program, middle.threads.get? thread = some (call, program) → call.Leaves id) →
      (∀ turn ∈ later, ProfileTurn.Asks (fun call => id ∉ call.request.newIds) turn) →
      (Machine.runTotal (Shared.step (profileService collates)) middle later).1.store.get? id =
        none := by
  intro middle gone leaves fresh
  have start : (leavingContract collates id).Upheld ProfileSystem.new :=
    Contract.upheld_of_idle fun other profile found => by simp at found
  obtain ⟨left, _⟩ := start.run first fun turn _ => by
    cases turn <;> exact trivial
  -- Programs on the way that leave the row alone go on doing so, now that it is not read.
  have upheld : (goneContract collates id).Upheld middle := by
    refine ⟨⟨left.store, gone⟩, fun thread call program found => ?_⟩
    have honors := left.threads thread call program found
    refine (honors.allow fun op allowed => allowed (leaves thread call program found)).mono ?_ ?_
    · intro op reply known
      cases op with
      | get other =>
        cases reply with
        | none => exact trivial
        | some profile => exact ⟨known.1, trivial⟩
      | nameTaken name own => exact trivial
      | userIdTaken userId own => exact trivial
      | all => exact trivial
      | insert profile => exact trivial
      | update profile => exact trivial
      | delete other => exact trivial
      | updateOrCreate profile => exact trivial
    · exact fun _ _ => trivial
  -- The turns that follow start programs that leave the row alone.
  obtain ⟨last, _⟩ := upheld.run later fun turn member => by
    cases turn with
    | begin thread call => exact fresh _ member
    | resume thread nature => exact trivial
  exact last.store.2

end Runs

/-- A profile is deleted, and then renamed in vain. -/
theorem deleted_stays_deleted_renamed :
    let middle := (Machine.runTotal (Shared.step (profileService fun _ _ => true)) ProfileSystem.new
      (servedAlone 0 (.create 7 (namingFields "ann")) 4 ++ servedAlone 1 (.remove 7) 3)).1
    (Machine.runTotal (Shared.step (profileService fun _ _ => true)) middle
      (servedAlone 2 (.patch 7 (namingFields "bob")) 2)).1.store.get? 7 = none :=
  deleted_stays_deleted (fun _ _ => true) 7
    (servedAlone 0 (.create 7 (namingFields "ann")) 4 ++ servedAlone 1 (.remove 7) 3)
    (servedAlone 2 (.patch 7 (namingFields "bob")) 2) (by decide)
    -- No thread is in the middle of a call when the second half begins.
    (fun thread call program found => by
      have free : ∀ thread, Dict.get? (Machine.runTotal
          (Shared.step (profileService fun _ _ => true)) ProfileSystem.new
          (servedAlone 0 (.create 7 (namingFields "ann")) 4 ++ servedAlone 1 (.remove 7) 3)).1.threads
          thread = none := fun _ => rfl
      rw [free] at found
      cases found)
    (by
      intro turn member
      simp only [servedAlone, List.mem_cons, List.mem_replicate] at member
      rcases member with rfl | ⟨_, rfl⟩
      · exact List.not_mem_nil
      · exact trivial)

/-- A change that has read the profile before it is deleted stores it again. -/
example : ((Machine.runTotal (Shared.step (profileService fun _ _ => true)) ProfileSystem.new
    (servedAlone 0 (.create 7 (namingFields "ann")) 4 ++
      servedAlone 2 (.patch 7 (namingFields "bob")) 1 ++ servedAlone 1 (.remove 7) 3 ++
      List.replicate 4 (.resume 2 ()))).1.store.get? 7).map TraderProfile.name = some "bob" := by
  decide

end StockMarket
