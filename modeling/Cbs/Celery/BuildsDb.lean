import Cbs.Celery.Tracker

/-!
# The builds database

The database keeps the last build number in memory and in its file.  Every store operation may fail,
which leaves the file as it was, and a restart reads the number from the file again.
-/

namespace Cbs

open Script

structure BuildsFile where
  /-- The number in the root entry, if there is one. -/
  root : Option Nat
  entries : Dictionary Nat BuildEntry

def BuildsFile.lastBuildId (file : BuildsFile) : Nat :=
  file.root.getD 0

def BuildEntry.failed (entry : BuildEntry) : BuildEntry :=
  { entry with state := .failure }

inductive BuildsDbError where
  | noSuchBuild (buildId : Nat)
  | store (msg : String)

structure BuildsDb where
  lastBuildId : Nat
  file : BuildsFile

abbrev DbScript (α : Type) : Type :=
  Script BuildsDb BuildsDbError α

abbrev StoreFault : Type :=
  Option String

namespace BuildsDb

/-- Open the file of a database. -/
def load (file : BuildsFile) : BuildsDb :=
  ⟨file.lastBuildId, file⟩

/-- One store operation; a failure raises and leaves the file unchanged. -/
def store (what : String) (fault : StoreFault) (change : BuildsFile → BuildsFile) : DbScript Unit :=
  match fault with
  | none => modify fun db => { db with file := change db.file }
  | some reason => fail (.store (what ++ reason))

def saveEntry (what : String) (buildId : Nat) (entry : BuildEntry) (fault : StoreFault) :
    DbScript Unit :=
  store what fault fun file => { file with entries := file.entries.insert buildId entry }

def new (entry : BuildEntry) (entryFault rootFault : StoreFault) : DbScript Nat := do
  let last ← Script.read (·.lastBuildId)
  let buildId := last + 1
  modify fun db => { db with lastBuildId := buildId }
  saveEntry ("failed to save build entry " ++ toString buildId ++ ": ") buildId entry entryFault
  store "failed to save builds db root: " rootFault fun file => { file with root := some buildId }
  pure buildId

/-- The number belongs to a build, as far as the number in memory tells. -/
def numbers (db : BuildsDb) (buildId : Nat) : Bool :=
  1 ≤ buildId && buildId ≤ db.lastBuildId

def update (buildId : Nat) (entry : BuildEntry) (fault : StoreFault) : DbScript Unit := do
  if ← Script.read (·.numbers buildId) then
    let what := "failed to update build entry " ++ toString buildId ++ ": "
    match ← Script.read (·.file.entries.lookup buildId) with
    | none => fail (.store (what ++ "'build_" ++ toString buildId ++ "'"))
    | some _ => saveEntry what buildId entry fault
  else
    fail (.store ("no such build ID " ++ toString buildId ++ " in database"))

def get (buildId : Nat) (fault : StoreFault) : DbScript BuildEntry := do
  if ← Script.read (·.numbers buildId) then
    store ("failed to get build entry " ++ toString buildId ++ " from db: ") fault id
    match ← Script.read (·.file.entries.lookup buildId) with
    | none => fail (.noSuchBuild buildId)
    | some entry => pure entry
  else
    fail (.noSuchBuild buildId)

def collect (buildId : Nat) (fault : StoreFault) : DbScript Unit := do
  match ← Script.read (·.file.entries.lookup buildId) with
  | none => pure ()
  | some entry =>
    if entry.state.isFinal then
      pure ()
    else
      saveEntry "failed to garbage collect builds db: " buildId entry.failed fault

/-- Go through builds, until a store operation fails. -/
def collectAll (faults : Nat → StoreFault) : List Nat → DbScript Unit
  | [] => pure ()
  | buildId :: rest => do
    collect buildId (faults buildId)
    collectAll faults rest

def buildIds (db : BuildsDb) : List Nat :=
  (List.range db.lastBuildId).map (· + 1)

def gc (faults : Nat → StoreFault) : DbScript Unit := do
  let buildIds ← Script.read buildIds
  store "failed to garbage collect builds db: " (faults 0) id
  collectAll faults buildIds

def unfinished (db : BuildsDb) (buildId : Nat) : Bool :=
  (db.file.entries.lookup buildId).any (!·.state.isFinal)

/-- Going through builds in ascending order finds a build unfinished and can store it: no earlier
store operation fails. -/
def Finds (db : BuildsDb) (faults : Nat → StoreFault) (buildIds : List Nat) (buildId : Nat) :
    Prop :=
  buildId ∈ buildIds ∧ db.unfinished buildId = true ∧
    ∀ other ∈ buildIds, other ≤ buildId → db.unfinished other = true → faults other = none

/-- The collection of unfinished builds marks a build. -/
def Marks (db : BuildsDb) (faults : Nat → StoreFault) (buildId : Nat) : Prop :=
  faults 0 = none ∧ db.Finds faults db.buildIds buildId

instance (db : BuildsDb) (faults : Nat → StoreFault) (buildIds : List Nat) (buildId : Nat) :
    Decidable (db.Finds faults buildIds buildId) :=
  inferInstanceAs (Decidable (_ ∧ _ ∧ ∀ other ∈ _, _))

instance (db : BuildsDb) (faults : Nat → StoreFault) (buildId : Nat) :
    Decidable (db.Marks faults buildId) :=
  inferInstanceAs (Decidable (_ ∧ _))

end BuildsDb

inductive DbCall where
  | new (entry : BuildEntry) (entryFault rootFault : StoreFault)
  | update (buildId : Nat) (entry : BuildEntry) (fault : StoreFault)
  | get (buildId : Nat) (fault : StoreFault)
  | gc (faults : Nat → StoreFault)
  | restart

structure DbHistory where
  db : BuildsDb
  /-- The numbers that were returned, the last one first. -/
  returned : List Nat
  /-- The entry of the last successful call that stored one, and whether a collection marked the
  build since. -/
  last : Nat → Option (BuildEntry × Bool)

namespace DbHistory

def note (history : DbHistory) (buildId : Nat) (entry : BuildEntry) : DbHistory :=
  { history with last := Function.update history.last buildId (some (entry, false)) }

def exec (history : DbHistory) : DbCall → DbHistory
  | .new entry entryFault rootFault =>
    match (BuildsDb.new entry entryFault rootFault).run history.db with
    | (.ok buildId, db) =>
      { history.note buildId entry with db, returned := buildId :: history.returned }
    | (.error _, db) => { history with db }
  | .update buildId entry fault =>
    match (BuildsDb.update buildId entry fault).run history.db with
    | (.ok _, db) => { history.note buildId entry with db }
    | (.error _, db) => { history with db }
  | .get buildId fault => { history with db := ((BuildsDb.get buildId fault).run history.db).2 }
  | .gc faults =>
    { history with
      db := ((BuildsDb.gc faults).run history.db).2
      last := fun buildId => (history.last buildId).map fun (entry, marked) =>
        (entry, marked || decide (history.db.Marks faults buildId)) }
  | .restart => { history with db := .load history.db.file }

def initial (file : BuildsFile) : DbHistory :=
  ⟨.load file, [], fun _ => none⟩

def run (file : BuildsFile) (calls : List DbCall) : DbHistory :=
  calls.foldl exec (initial file)

end DbHistory

/-- What is found of a build: the entry that was stored last, as failed if the build was marked. -/
def BuildEntry.after (last : BuildEntry) (marked : Bool) : BuildEntry :=
  if marked then last.failed else last

/-- A returned number is covered by the stored one, and its entry is the last one. -/
structure DbHistory.Sound (history : DbHistory) : Prop where
  counter : history.db.file.lastBuildId ≤ history.db.lastBuildId
  nodup : history.returned.Nodup
  numbered : ∀ buildId ∈ history.returned, 1 ≤ buildId ∧ buildId ≤ history.db.file.lastBuildId
  kept : ∀ buildId ∈ history.returned, ∃ last marked,
    history.last buildId = some (last, marked) ∧
      (marked = true → last.state.isFinal = false) ∧
      history.db.file.entries.lookup buildId = some (last.after marked)

variable {history : DbHistory} {db : BuildsDb} {buildId : Nat} {entry : BuildEntry}
  {fault : StoreFault}

theorem DbHistory.Sound.keep (sound : history.Sound)
    (counter : db.file.lastBuildId ≤ db.lastBuildId)
    (grows : history.db.file.lastBuildId ≤ db.file.lastBuildId)
    (same : ∀ buildId ∈ history.returned,
      db.file.entries.lookup buildId = history.db.file.entries.lookup buildId) :
    DbHistory.Sound { history with db } where
  counter := counter
  nodup := sound.nodup
  numbered buildId returned :=
    ⟨(sound.numbered buildId returned).1, (sound.numbered buildId returned).2.trans grows⟩
  kept buildId returned := by
    obtain ⟨last, marked, known, unfinished, stored⟩ := sound.kept buildId returned
    exact ⟨last, marked, known, unfinished, (same buildId returned).trans stored⟩

theorem DbHistory.Sound.ne_next (sound : history.Sound) (returned : buildId ∈ history.returned) :
    buildId ≠ history.db.lastBuildId + 1 := by
  have bound := (sound.numbered buildId returned).2
  have counter := sound.counter
  omega

theorem sound_new (sound : history.Sound) (entryFault rootFault : StoreFault) :
    (history.exec (.new entry entryFault rootFault)).Sound := by
  have apart : ∀ buildId ∈ history.returned,
      (history.db.file.entries.insert (history.db.lastBuildId + 1) entry).lookup buildId =
        history.db.file.entries.lookup buildId :=
    fun _ returned => AList.lookup_insert_ne (sound.ne_next returned)
  have counter := sound.counter
  cases entryFault with
  | some reason => exact sound.keep (Nat.le_succ_of_le counter) (le_refl _) fun _ _ => rfl
  | none =>
    cases rootFault with
    | some reason => exact sound.keep (Nat.le_succ_of_le counter) (le_refl _) apart
    | none =>
      have fresh : history.db.lastBuildId + 1 ∉ history.returned :=
        fun returned => sound.ne_next returned rfl
      refine ⟨le_refl _, List.nodup_cons.mpr ⟨fresh, sound.nodup⟩, ?_, ?_⟩
      · refine List.forall_mem_cons.mpr ⟨⟨Nat.le_add_left _ _, le_refl _⟩, fun buildId before => ?_⟩
        have bounds := sound.numbered buildId before
        exact ⟨bounds.1, (bounds.2.trans counter).trans (Nat.le_succ _)⟩
      · intro buildId returned
        rcases List.mem_cons.mp returned with rfl | before
        · exact ⟨entry, false, Function.update_self .., nofun, AList.lookup_insert _⟩
        · obtain ⟨last, marked, known, unfinished, stored⟩ := sound.kept buildId before
          exact ⟨last, marked, (Function.update_of_ne (sound.ne_next before) ..).trans known,
            unfinished, (apart buildId before).trans stored⟩

theorem update_cases (db : BuildsDb) (buildId : Nat) (entry : BuildEntry) (fault : StoreFault) :
    (∃ error, (BuildsDb.update buildId entry fault).run db = (.error error, db)) ∨
      (BuildsDb.update buildId entry fault).run db =
        (.ok (), { db with file.entries := db.file.entries.insert buildId entry }) := by
  unfold BuildsDb.update
  rw [run_bind_of_ok run_read]
  split_ifs
  · rw [run_bind_of_ok run_read]
    cases db.file.entries.lookup buildId with
    | none => exact Or.inl ⟨_, rfl⟩
    | some old =>
      cases fault with
      | none => exact Or.inr rfl
      | some reason => exact Or.inl ⟨_, rfl⟩
  · exact Or.inl ⟨_, rfl⟩

theorem sound_update (sound : history.Sound) :
    (history.exec (.update buildId entry fault)).Sound := by
  rcases update_cases history.db buildId entry fault with ⟨error, raised⟩ | stored
  · simp only [DbHistory.exec, raised]
    exact sound
  · simp only [DbHistory.exec, stored]
    refine ⟨sound.counter, sound.nodup, sound.numbered, fun other returned => ?_⟩
    by_cases same : other = buildId
    · subst same
      exact ⟨entry, false, Function.update_self .., nofun, AList.lookup_insert _⟩
    · obtain ⟨last, marked, known, unfinished, present⟩ := sound.kept other returned
      exact ⟨last, marked, (Function.update_of_ne same ..).trans known, unfinished,
        (AList.lookup_insert_ne same).trans present⟩

/-- One build of a collection: an unfinished one is stored as failed or ends the collection. -/
theorem collect_cases (db : BuildsDb) (buildId : Nat) (fault : StoreFault) :
    (db.unfinished buildId = false ∧
        (BuildsDb.collect buildId fault).run db = (.ok (), db)) ∨
      (db.unfinished buildId = true ∧ fault ≠ none ∧
        ∃ error, (BuildsDb.collect buildId fault).run db = (.error error, db)) ∨
      (fault = none ∧ ∃ entry, db.file.entries.lookup buildId = some entry ∧
        entry.state.isFinal = false ∧ (BuildsDb.collect buildId fault).run db =
          (.ok (), { db with file.entries := db.file.entries.insert buildId entry.failed })) := by
  unfold BuildsDb.collect BuildsDb.unfinished
  rw [run_bind_of_ok run_read]
  cases db.file.entries.lookup buildId with
  | none => exact .inl ⟨rfl, rfl⟩
  | some entry =>
    cases final : entry.state.isFinal with
    | true => exact .inl ⟨by simp [final], by simp [final]⟩
    | false =>
      cases fault with
      | some reason => exact .inr (.inl ⟨by simp [final], nofun, _, by simp [final]; rfl⟩)
      | none => exact .inr (.inr ⟨rfl, entry, rfl, final, by simp [final]; rfl⟩)

theorem BuildEntry.after_failed (entry : BuildEntry) (marked : Bool) :
    entry.failed.after marked = entry.failed := by
  cases marked <;> rfl

/-- After its first build, going through builds finds what it finds of the others. -/
theorem finds_cons {other : BuildsDb} {faults : Nat → StoreFault} {first : Nat} {rest : List Nat}
    (below : ∀ later ∈ rest, first < later) (isLater : buildId ≠ first)
    (same : ∀ later ≠ first, other.unfinished later = db.unfinished later)
    (passes : db.unfinished first = true → faults first = none) :
    other.Finds faults rest buildId ↔ db.Finds faults (first :: rest) buildId := by
  unfold BuildsDb.Finds
  rw [List.mem_cons, or_iff_right isLater, List.forall_mem_cons, same buildId isLater,
    and_iff_right fun _ => passes]
  refine and_congr_right fun _ => and_congr_right fun _ => forall₂_congr fun later inside => ?_
  rw [same later (below later inside).ne']

/-- Going through builds leaves the counters alone, and marks the builds it finds unfinished. -/
theorem run_collectAll {faults : Nat → StoreFault} {buildIds : List Nat}
    (ascending : buildIds.Pairwise (· < ·)) (db : BuildsDb) :
    let after := ((BuildsDb.collectAll faults buildIds).run db).2
    after.lastBuildId = db.lastBuildId ∧ after.file.root = db.file.root ∧
      ∀ buildId entry, db.file.entries.lookup buildId = some entry →
        after.file.entries.lookup buildId =
          some (entry.after (decide (db.Finds faults buildIds buildId))) := by
  induction buildIds generalizing db with
  | nil => exact ⟨rfl, rfl, fun _ _ stored => by simpa [BuildsDb.Finds, BuildEntry.after]⟩
  | cons first rest ih =>
    obtain ⟨below, ascending⟩ := List.pairwise_cons.mp ascending
    rcases collect_cases db first (faults first) with
      ⟨finished, same⟩ | ⟨unfinished, failing, error, same⟩ |
        ⟨works, old, present, unfinished, same⟩
    · rw [BuildsDb.collectAll, run_bind_of_ok same]
      obtain ⟨memory, root, entries⟩ := ih ascending db
      refine ⟨memory, root, fun buildId entry stored => ?_⟩
      rw [entries buildId entry stored]
      refine congrArg (some <| entry.after ·) (decide_eq_decide.mpr ?_)
      by_cases isFirst : buildId = first
      · subst isFirst
        simp [BuildsDb.Finds, finished]
      · exact finds_cons below isFirst (fun _ _ => rfl) (by simp [finished])
    · -- the collection ends here, and every build it had to go through comes later
      rw [BuildsDb.collectAll, run_bind, same]
      refine ⟨rfl, rfl, fun buildId entry stored => ?_⟩
      have missed : ¬ db.Finds faults (first :: rest) buildId := by
        rintro ⟨inside, -, works⟩
        refine failing (works first List.mem_cons_self ?_ unfinished)
        rcases List.mem_cons.mp inside with rfl | later
        · exact le_rfl
        · exact (below buildId later).le
      simpa [missed, BuildEntry.after] using stored
    · rw [BuildsDb.collectAll, run_bind_of_ok same]
      obtain ⟨memory, root, entries⟩ := ih ascending
        { db with file.entries := db.file.entries.insert first old.failed }
      refine ⟨memory, root, fun buildId entry stored => ?_⟩
      by_cases isFirst : buildId = first
      · subst isFirst
        obtain rfl := Option.some.inj (present.symm.trans stored)
        rw [entries buildId _ (AList.lookup_insert _)]
        have found : db.Finds faults (buildId :: rest) buildId := by
          refine ⟨List.mem_cons_self, by simp [BuildsDb.unfinished, present, unfinished], ?_⟩
          refine List.forall_mem_cons.mpr ⟨fun _ _ => works, fun later inside upTo => ?_⟩
          exact absurd upTo (below later inside).not_ge
        rw [BuildEntry.after_failed, decide_eq_true found]
        rfl
      · rw [entries buildId entry ((AList.lookup_insert_ne isFirst).trans stored)]
        have apart : ∀ later ≠ first, BuildsDb.unfinished
            { db with file.entries := db.file.entries.insert first old.failed } later =
              db.unfinished later := by
          intro later isLater
          simp only [BuildsDb.unfinished, AList.lookup_insert_ne isLater]
        exact congrArg (some <| entry.after ·)
          (decide_eq_decide.mpr (finds_cons below isFirst apart fun _ => works))

theorem ascending_buildIds (db : BuildsDb) : db.buildIds.Pairwise (· < ·) :=
  List.pairwise_map.mpr (List.pairwise_lt_range.imp Nat.succ_lt_succ)

theorem run_gc (db : BuildsDb) (faults : Nat → StoreFault) :
    let after := ((BuildsDb.gc faults).run db).2
    after.lastBuildId = db.lastBuildId ∧ after.file.root = db.file.root ∧
      ∀ buildId entry, db.file.entries.lookup buildId = some entry →
        after.file.entries.lookup buildId =
          some (entry.after (decide (db.Marks faults buildId))) := by
  unfold BuildsDb.gc
  rw [run_bind_of_ok run_read]
  rcases opened : faults 0 with _ | reason
  · obtain ⟨memory, root, entries⟩ := run_collectAll (ascending_buildIds db) db
    refine ⟨memory, root, fun buildId entry stored => (entries buildId entry stored).trans ?_⟩
    simp only [BuildsDb.Marks, opened, true_and]
  · refine ⟨rfl, rfl, fun buildId entry stored => stored.trans ?_⟩
    simp [BuildsDb.Marks, opened, BuildEntry.after]

theorem sound_gc (sound : history.Sound) (faults : Nat → StoreFault) :
    (history.exec (.gc faults)).Sound := by
  obtain ⟨memory, root, entries⟩ := run_gc history.db faults
  have stored : ((BuildsDb.gc faults).run history.db).2.file.lastBuildId =
      history.db.file.lastBuildId := congrArg (Option.getD · 0) root
  refine ⟨?_, sound.nodup, fun other returned => ?_, fun other returned => ?_⟩
  · exact (stored.trans_le sound.counter).trans_eq memory.symm
  · exact ⟨(sound.numbered other returned).1,
      (sound.numbered other returned).2.trans_eq stored.symm⟩
  · obtain ⟨last, marked, known, unfinished, present⟩ := sound.kept other returned
    refine ⟨last, marked || decide (history.db.Marks faults other),
      by simp [DbHistory.exec, known], ?_, ?_⟩
    · cases marked with
      | true => exact fun _ => unfinished rfl
      | false =>
        intro marks
        simpa [BuildsDb.unfinished, present, BuildEntry.after] using
          (of_decide_eq_true marks).2.2.1
    · refine (entries other _ present).trans ?_
      cases marked with
      | false => rfl
      | true => exact congrArg some (last.after_failed _)

theorem run_get_snd (db : BuildsDb) (buildId : Nat) (fault : StoreFault) :
    ((BuildsDb.get buildId fault).run db).2 = db := by
  unfold BuildsDb.get
  rw [run_bind_of_ok run_read]
  split_ifs
  · cases fault with
    | some reason => rfl
    | none =>
      rw [run_bind_of_ok (show (BuildsDb.store _ none id).run db = (.ok (), db) from rfl),
        run_bind_of_ok run_read]
      cases db.file.entries.lookup buildId <;> rfl
  · rfl

theorem run_get_fst {db : BuildsDb} (numbered : db.numbers buildId = true)
    (present : db.file.entries.lookup buildId = some entry) :
    ((BuildsDb.get buildId none).run db).1 = .ok entry := by
  unfold BuildsDb.get
  rw [run_bind_of_ok run_read, if_pos numbered,
    run_bind_of_ok (show (BuildsDb.store _ none id).run db = (.ok (), db) from rfl),
    run_bind_of_ok run_read, present]
  rfl

theorem DbHistory.Sound.exec (sound : history.Sound) (call : DbCall) :
    (history.exec call).Sound := by
  cases call with
  | new entry entryFault rootFault => exact sound_new sound entryFault rootFault
  | update buildId entry fault => exact sound_update sound
  | get buildId fault =>
    rw [DbHistory.exec, run_get_snd]
    exact sound
  | gc faults => exact sound_gc sound faults
  | restart => exact sound.keep (le_refl _) (le_refl _) fun _ _ => rfl

theorem sound_run (file : BuildsFile) (calls : List DbCall) : (DbHistory.run file calls).Sound := by
  have all : ∀ history : DbHistory, history.Sound → (calls.foldl DbHistory.exec history).Sound := by
    induction calls with
    | nil => exact fun _ sound => sound
    | cons call calls ih => exact fun history sound => ih _ (sound.exec call)
  exact all _ ⟨le_refl _, List.nodup_nil, fun _ inside => absurd inside List.not_mem_nil,
    fun _ inside => absurd inside List.not_mem_nil⟩

/-- Over every sequence of calls, failures and restarts, numbers are returned once, no later build
takes the place of a returned one, and each yields its last entry, as failed exactly if a later
collection found it unfinished. -/
theorem build_numbers_never_reused (file : BuildsFile) (calls : List DbCall) :
    let history := DbHistory.run file calls
    history.returned.Nodup ∧ ∀ buildId ∈ history.returned,
      (∀ entry entryFault rootFault,
        ((BuildsDb.new entry entryFault rootFault).run history.db).2.file.entries.lookup buildId =
          history.db.file.entries.lookup buildId) ∧
      ∃ last marked, history.last buildId = some (last, marked) ∧
        (marked = true → last.state.isFinal = false) ∧
        ((BuildsDb.get buildId none).run history.db).1 = .ok (last.after marked) := by
  intro history
  have sound := sound_run file calls
  refine ⟨sound.nodup, fun buildId returned => ⟨fun entry entryFault rootFault => ?_, ?_⟩⟩
  · cases entryFault with
    | some reason => rfl
    | none => cases rootFault <;> exact AList.lookup_insert_ne (sound.ne_next returned)
  · obtain ⟨last, marked, known, unfinished, present⟩ := sound.kept buildId returned
    have bounds := sound.numbered buildId returned
    refine ⟨last, marked, known, unfinished, run_get_fst ?_ present⟩
    simpa [BuildsDb.numbers] using ⟨bounds.1, bounds.2.trans sound.counter⟩

end Cbs
