import Cbs.Library.Raising
import Cbs.Worker.Containment

/-!
# The decompression cap

The stream of an archive is read through a reader that stops behind a number of bytes, and every
entry is checked for its size.  The holes of a sparse entry are not stored, and no limit is set on
their sum.
-/

namespace Cbs

open Checks Script Unix

def u64Max : Nat := 2 ^ 64 - 1

/-- A reader that stops behind a number of bytes. -/
structure LimitedReader where
  remaining : Nat
  cap : Nat
  deriving DecidableEq

namespace LimitedReader

/-- A reader for a cap; one byte more may be read, so that a stream of exactly that size ends
before the reader stops. -/
def new (cap : Nat) : LimitedReader :=
  ⟨min (cap + 1) u64Max, cap⟩

/-- Read into a buffer as many bytes as the stream has for it. -/
def read (reader : LimitedReader) (wanted : Nat) : Except ReadError (Nat × LimitedReader) :=
  if reader.remaining = 0 then .error (.cap reader.cap)
  else
    let n := min wanted reader.remaining
    .ok (n, { reader with remaining := reader.remaining - n })

/-- Read bytes of the stream one after another: how many come through, and what the last read fails
with if that is not all of them. -/
def readAll (reader : LimitedReader) : Nat → Nat × Option ReadError × LimitedReader
  | 0 => (0, none, reader)
  | wanted + 1 =>
    match reader.read 1 with
    | .error reason => (0, some reason, reader)
    | .ok (got, next) => (got + (next.readAll wanted).1, (next.readAll wanted).2)

theorem readAll_eq (reader : LimitedReader) (wanted : Nat) :
    reader.readAll wanted =
      (min wanted reader.remaining,
        if wanted ≤ reader.remaining then none else some (.cap reader.cap),
        { reader with remaining := reader.remaining - wanted }) := by
  induction wanted generalizing reader with
  | zero => simp [readAll]
  | succ wanted ih =>
    rw [readAll, read]
    by_cases empty : reader.remaining = 0
    · simp [empty]
      rw [← empty]
    · have one : min 1 reader.remaining = 1 := by omega
      simp only [if_neg empty, one, ih, Prod.mk.injEq, LimitedReader.mk.injEq, and_true]
      refine ⟨by omega, ?_, by omega⟩
      split_ifs
      · rfl
      · omega
      · omega
      · rfl

end LimitedReader

/-- A part of the content of an entry. -/
inductive Extent where
  | data (bytes : List UInt8)
  /-- A hole, which reads as zero bytes and is not stored. -/
  | hole (length : Nat)
  deriving DecidableEq

def Extent.stored : Extent → Nat
  | data bytes => bytes.length
  | hole _ => 0

def Extent.expanded : Extent → Nat
  | data bytes => bytes.length
  | hole length => length

structure TarMember where
  headerBytes : Nat
  headed : 0 < headerBytes
  entryType : EntryType
  path : String
  linkName : Option String
  /-- The mode in its header, or why it cannot be read. -/
  mode : Except String Nat
  extents : List Extent
  size : Nat
  sized : (extents.map Extent.expanded).sum ≤ size
  /-- Why its content cannot be read to the end, if it cannot. -/
  failure : Option String
  padding : Nat

/-- How a stream ends behind its last entry. -/
inductive TarEnding where
  /-- With a number of bytes, which start with an empty block if there are any. -/
  | finished (rest : Nat)
  /-- With a number of bytes and a failure to read a header. -/
  | broken (rest : Nat) (message : String)
  deriving DecidableEq

/-- The number of bytes behind the last entry. -/
def TarEnding.length : TarEnding → Nat
  | finished rest | broken rest _ => rest

/-- The uncompressed stream of an archive. -/
structure TarStream where
  members : List TarMember
  ending : TarEnding

/-- The number of bytes of an entry in the stream. -/
def TarMember.length (member : TarMember) : Nat :=
  member.headerBytes + (member.extents.map Extent.stored).sum + member.padding

def TarStream.length (stream : TarStream) : Nat :=
  (stream.members.map TarMember.length).sum + stream.ending.length

/-- Read the content of an entry. -/
def readExtents (reader : LimitedReader) :
    List Extent → List (List UInt8) × Option ReadError × LimitedReader
  | [] => ([], none, reader)
  | .hole length :: extents =>
    (List.replicate length 0 :: (readExtents reader extents).1, (readExtents reader extents).2)
  | .data bytes :: extents =>
    match reader.readAll bytes.length with
    | (got, some reason, next) => ([bytes.take got], some reason, next)
    | (_, none, next) => (bytes :: (readExtents next extents).1, (readExtents next extents).2)

/-- Read what follows the entries; of an empty block and what is behind it only the block is
read. -/
def readEnding (reader : LimitedReader) : TarEnding → List (Except ReadError Entry)
  | .finished 0 =>
    match reader.read 0 with
    | .error reason => [.error reason]
    | .ok _ => []
  | .finished rest =>
    match (reader.readAll (min rest 512)).2.1 with
    | some reason => [.error reason]
    | none => []
  | .broken rest message =>
    match (reader.readAll rest).2.1 with
    | some reason => [.error reason]
    | none => [.error (.io message)]

def TarMember.entry (member : TarMember) (chunks : List (List UInt8))
    (readError : Option ReadError) : Entry where
  entryType := member.entryType
  path := member.path
  size := member.size
  linkName := member.linkName
  chunks := chunks
  readError := readError.or (member.failure.map .io)
  mode := member.mode

/-- Read the entries of a stream. -/
def readMembers (ending : TarEnding) (reader : LimitedReader) :
    List TarMember → List (Except ReadError Entry)
  | [] => readEnding reader ending
  | member :: members =>
    match reader.readAll member.headerBytes with
    | (_, some reason, _) => [.error reason]
    | (_, none, headed) =>
      let content := readExtents headed member.extents
      let entry := member.entry content.1 content.2.1
      match entry.readError with
      | some reason => [.ok entry, .error reason]
      | none =>
        match content.2.2.readAll member.padding with
        | (_, some reason, _) => [.ok entry, .error reason]
        | (_, none, padded) => .ok entry :: readMembers ending padded members

def readStream (cap : Nat) (stream : TarStream) : List (Except ReadError Entry) :=
  readMembers stream.ending (.new cap) stream.members

/-- A worker that reads archives, given how their streams look uncompressed. -/
def tarEnv (env : UnpackEnv) (parse : List UInt8 → TarStream) : UnpackEnv :=
  { env with entries := fun tarball cap => .ok (readStream cap (parse tarball)) }

def EntryType.isFile : EntryType → Bool
  | regular | continuous | gnuSparse => true
  | _ => false

/-- The number of content bytes that an entry yields for a file. -/
def Entry.contentBytes (entry : Entry) : Nat :=
  if entry.entryType.isFile then (entry.chunks.map List.length).sum else 0

/-- The content of a file can be read to its end, and its mode as well. -/
def Entry.complete (entry : Entry) : Bool :=
  !entry.entryType.isFile || entry.readError.isNone && entry.mode.isOk

/-- The number of content bytes that some items yield for files, up to the first entry that is
refused or cannot be read. -/
def acceptedBytes (root : List String) (cap : Nat) : List (Except ReadError Entry) → Nat
  | .ok entry :: items =>
    match checkEntry root cap entry with
    | .ok _ => entry.contentBytes + if entry.complete then acceptedBytes root cap items else 0
    | .error _ => 0
  | _ => 0

/-- The bytes that `copyChunks` writes. -/
def bytesCopied (inode : Nat) : List (List UInt8) → Machine String → Nat
  | [], _ => 0
  | chunk :: chunks, machine =>
    (call unpackError fun fs => .ok (fs.write inode chunk, ()) : Unpacking Unit).tally
      (fun _ after => chunk.length + bytesCopied inode chunks after) machine

def bytesPlaced (env : UnpackEnv) (root dest : List String) (entry : Entry) (action : Action)
    (machine : Machine String) : Nat :=
  match action with
  | .regular =>
    (prepareParent root dest).tally (fun _ =>
      (call unpackError fun fs => fs.openCreate [] env.createMode (.ofPlace dest) :
        Unpacking Nat).tally fun inode => bytesCopied inode entry.chunks) machine
  | _ => 0

def bytesOfOne (env : UnpackEnv) (root : List String) (maxUncompressedBytes : Nat) (entry : Entry)
    (machine : Machine String) : Nat :=
  match checkEntry root maxUncompressedBytes entry with
  | .ok checked => bytesPlaced env root checked.1 entry checked.2 machine
  | .error _ => 0

def bytesOfEntries (env : UnpackEnv) (root : List String) (maxUncompressedBytes : Nat) :
    List (Except ReadError Entry) → Machine String → Nat
  | [], _ | .error _ :: _, _ => 0
  | .ok entry :: items, machine =>
    bytesOfOne env root maxUncompressedBytes entry machine +
      (unpackOne env root maxUncompressedBytes entry).tally
        (fun _ => bytesOfEntries env root maxUncompressedBytes items) machine

/-- An error of the file system, where an entry is put in place. -/
def ComponentError.ofSystem : ComponentError → Bool
  | .unpack (.os _) | .containment _ => true
  | _ => false

/-- The file system stops the unpacking of entries. -/
def hindered (env : UnpackEnv) (root : List String) (maxUncompressedBytes : Nat) :
    List (Except ReadError Entry) → Machine String → Bool
  | .ok entry :: items, machine =>
    match checkEntry root maxUncompressedBytes entry with
    | .error _ => false
    | .ok checked =>
      match (place env root checked.1 entry checked.2).run machine with
      | (.error reason, _) => reason.ofSystem
      | (.ok _, after) => hindered env root maxUncompressedBytes items after
  | _, _ => false

/-- The content bytes that `validateAndUnpack` writes to files. -/
def bytesWritten (env : UnpackEnv) (tarballBytes : List UInt8) (expectedSha256 tempDir : String)
    (maxUncompressedBytes : Nat) (machine : Machine String) : Nat :=
  if env.sha256 tarballBytes = expectedSha256 then
    (openUnpackDir env tempDir (env.sha256 tarballBytes)).tally (fun root after =>
      match env.entries tarballBytes maxUncompressedBytes with
      | .ok items => bytesOfEntries env root maxUncompressedBytes items after
      | .error _ => 0) machine
  else 0

section Written

variable {env : UnpackEnv} {root dest : List String} {maxUncompressedBytes : Nat} {entry : Entry}
  {machine after : Machine String} {action : Action}

/-- A checked entry is put in place as a file exactly if its type says so. -/
theorem isFile_iff_of_checkEntry
    (checked : checkEntry root maxUncompressedBytes entry = .ok (dest, action)) :
    entry.entryType.isFile = true ↔ action = .regular := by
  obtain ⟨place, -, rest⟩ := bind_eq_ok.mp checked
  obtain ⟨-, -, rest⟩ := bind_eq_ok.mp rest
  obtain ⟨typed, isTyped, done⟩ := bind_eq_ok.mp rest
  obtain ⟨rfl, rfl⟩ := Prod.mk.inj (Except.ok.inj done)
  cases isType : entry.entryType with
  | symlink =>
    rw [checkType, isType] at isTyped
    obtain ⟨_, rfl⟩ := checkSymlink_eq_ok isTyped
    simp [EntryType.isFile]
  | link =>
    rw [checkType, isType] at isTyped
    obtain ⟨_, rfl, -⟩ := checkHardLink_eq_ok isTyped
    simp [EntryType.isFile]
  | _ =>
    rw [checkType, isType] at isTyped
    cases isTyped <;> simp [EntryType.isFile]

theorem avoids_call {ν ε α : Type} [DecidableEq ν] {bad : ε → Prop} {explain : Errno → ε}
    {operation : FileSystem ν → Except Errno (FileSystem ν × α)}
    (good : ∀ errno, ¬ bad (explain errno)) :
    Avoids bad (call explain operation : Script (Machine ν) ε α) := by
  refine Avoids.bind (fun machine reason stopped => ?_) fun outcome => ?_
  · exfalso
    unfold Script.run attempt at stopped
    split at stopped
    · cases stopped
    · split at stopped <;> cases stopped
  · cases outcome with
    | ok value => exact avoids_pure
    | error errno =>
      intro machine reason stopped
      cases stopped
      exact good errno

section Avoids

variable {bad : ComponentError → Prop} (good : ∀ errno, ¬ bad (unpackError errno))

include good

theorem avoids_copyChunks (inode : Nat) (chunks : List (List UInt8)) :
    Avoids bad (copyChunks inode chunks) := by
  induction chunks with
  | nil => exact avoids_pure
  | cons chunk chunks ih => exact Avoids.bind (avoids_call good) fun _ => ih

theorem avoids_writeFile (env : UnpackEnv) (dest : List String)
    (readable : ∀ reason ∈ entry.readError, ¬ bad reason.toComponentError)
    (moded : ∀ message, entry.mode = .error message → ¬ bad (.unpack (.text message))) :
    Avoids bad (writeFile env dest entry) := by
  refine Avoids.bind (avoids_call good) fun inode => ?_
  refine Avoids.bind (avoids_copyChunks good inode entry.chunks) fun _ => ?_
  refine Avoids.bind (avoids_ofExcept fun reason failed => ?_) fun _ => ?_
  · cases isError : entry.readError with
    | none =>
      rw [isError] at failed
      cases failed
    | some error =>
      rw [isError] at failed
      cases failed
      exact readable error isError
  · refine Avoids.bind (avoids_ofExcept fun reason failed => ?_) fun mode => avoids_call good
    obtain ⟨message, isError, rfl⟩ := mapError_eq_error.mp failed
    exact moded message isError

variable (contained : ∀ message, ¬ bad (.containment message))

include contained

theorem avoids_prepareParent (root dest : List String) : Avoids bad (prepareParent root dest) := by
  refine Avoids.bind ?_ fun _ => avoids_mapError fun error => contained _
  unfold createParent
  split
  · exact avoids_pure
  · exact avoids_mapError good

theorem avoids_place (written : action = .regular → Avoids bad (writeFile env dest entry)) :
    Avoids bad (place env root dest entry action) := by
  have prepared := avoids_prepareParent good contained root dest
  cases action with
  | directory => exact Avoids.bind prepared fun _ => avoids_mapError good
  | regular => exact Avoids.bind prepared fun _ => written rfl
  | symlink target | hardLink source => exact Avoids.bind prepared fun _ => avoids_call good

end Avoids

theorem unpackError_ofSystem (errno : Errno) : ¬ ¬ (unpackError errno).ofSystem = true :=
  fun other => other rfl

theorem containment_ofSystem (message : String) :
    ¬ ¬ (ComponentError.containment message).ofSystem = true :=
  fun other => other rfl

theorem tallies_copyChunks (inode : Nat) (chunks : List (List UInt8)) :
    (copyChunks inode chunks).Tallies (·.ofSystem = true) (bytesCopied inode chunks)
      (chunks.map List.length).sum := by
  induction chunks with
  | nil => exact tallies_zero
  | cons chunk chunks ih =>
    exact .bind (avoids_call unpackError_ofSystem) fun _ => ih.add chunk.length

/-- The content of a file is written, unless the file system fails. -/
theorem tallies_place :
    (place env root dest entry action).Tallies (·.ofSystem = true)
      (bytesPlaced env root dest entry action)
      (if action = .regular then (entry.chunks.map List.length).sum else 0) := by
  cases action with
  | regular =>
    exact .bind (avoids_prepareParent unpackError_ofSystem containment_ofSystem root dest) fun _ =>
      .bind (avoids_call unpackError_ofSystem) fun _ => (tallies_copyChunks _ _).uncounted
  | _ => exact tallies_zero

variable (checked : checkEntry root maxUncompressedBytes entry = .ok (dest, action))
include checked

theorem contentBytes_of_checkEntry :
    entry.contentBytes =
      if action = .regular then (entry.chunks.map List.length).sum else 0 := by
  simp only [Entry.contentBytes, isFile_iff_of_checkEntry checked]

/-- A complete entry is put in place unless the file system fails. -/
theorem avoids_place_of_complete (complete : entry.complete = true) :
    Avoids (¬ ·.ofSystem = true) (place env root dest entry action) := by
  refine avoids_place unpackError_ofSystem containment_ofSystem fun isRegular => ?_
  have isFile := (isFile_iff_of_checkEntry checked).mpr isRegular
  simp only [Entry.complete, isFile, Bool.not_true, Bool.false_or, Bool.and_eq_true,
    Option.isNone_iff_eq_none] at complete
  refine avoids_writeFile unpackError_ofSystem env dest ?_ fun message isError => ?_
  · rw [complete.1]
    exact nofun
  · rw [isError] at complete
    cases complete.2

theorem complete_of_place
    (placed : (place env root dest entry action).run machine = (.ok (), after)) :
    entry.complete = true := by
  cases isFile : entry.entryType.isFile with
  | false => simp [Entry.complete, isFile]
  | true =>
    obtain rfl := (isFile_iff_of_checkEntry checked).mp isFile
    obtain ⟨_, _, -, written⟩ := of_run_bind_ok placed
    obtain ⟨_, _, -, written⟩ := of_run_bind_ok written
    obtain ⟨_, _, -, written⟩ := of_run_bind_ok written
    obtain ⟨_, _, read, written⟩ := of_run_bind_ok written
    obtain ⟨_, _, moded, -⟩ := of_run_bind_ok written
    rw [run_ofExcept] at read moded
    have isRead : entry.readError = none := by
      cases isError : entry.readError with
      | none => rfl
      | some error =>
        rw [isError] at read
        cases read
    have isModed := mapError_eq_ok.mp (Prod.mk.inj moded).1
    simp [Entry.complete, isRead, isModed, Except.isOk, Except.toBool]

omit checked

/-- No more is written than is read of accepted entries, and all of it unless the file system
fails. -/
theorem written_unpackEntries (items : List (Except ReadError Entry)) (machine : Machine String) :
    bytesOfEntries env root maxUncompressedBytes items machine ≤
        acceptedBytes root maxUncompressedBytes items ∧
      (hindered env root maxUncompressedBytes items machine = false →
        bytesOfEntries env root maxUncompressedBytes items machine =
          acceptedBytes root maxUncompressedBytes items) := by
  induction items generalizing machine with
  | nil => exact ⟨le_rfl, fun _ => rfl⟩
  | cons item items ih =>
    cases item with
    | error reason => exact ⟨le_rfl, fun _ => rfl⟩
    | ok entry =>
      rw [bytesOfEntries, acceptedBytes, hindered, bytesOfOne, tally, unpackOne, run_bind,
        run_ofExcept]
      cases isChecked : checkEntry root maxUncompressedBytes entry with
      | error reason => exact ⟨le_rfl, fun _ => rfl⟩
      | ok checked =>
        obtain ⟨dest, action⟩ := checked
        obtain ⟨atMost, whole⟩ := @tallies_place env root dest entry action machine
        rw [← contentBytes_of_checkEntry isChecked] at atMost whole
        dsimp only
        cases outcome : (place env root dest entry action).run machine with
        | mk result after =>
          rw [outcome] at whole
          cases result with
          | error reason =>
            refine ⟨Nat.le_add_right_of_le atMost, fun unhindered => ?_⟩
            have incomplete : entry.complete = false := by
              by_contra complete
              refine avoids_place_of_complete isChecked (by simpa using complete) machine reason
                (by rw [outcome]) ?_
              simp [unhindered]
            rw [whole fun other same => by cases same; simp [unhindered], incomplete]
            rfl
          | ok _ =>
            obtain ⟨later, exactly⟩ := ih after
            rw [complete_of_place isChecked outcome, if_pos rfl]
            refine ⟨Nat.add_le_add atMost later, fun unhindered => ?_⟩
            rw [whole fun _ same => by cases same]
            exact congrArg (entry.contentBytes + ·) (exactly unhindered)

end Written

/-- The expanded content of which the stored bytes stand in the first bytes of the stream. -/
def Extent.contentWithin : Nat → List Extent → Nat
  | _, [] => 0
  | budget, .hole length :: extents => length + contentWithin budget extents
  | budget, .data bytes :: extents =>
    if bytes.length ≤ budget then
      bytes.length + contentWithin (budget - bytes.length) extents
    else budget

def TarMember.accepted (root : List String) (cap : Nat) (member : TarMember) : Bool :=
  (checkEntry root cap (member.entry [] none)).isOk

/-- The expanded content of files that stands in the first bytes of the stream, up to the first
entry that is refused or cannot be read. -/
def contentWithin (root : List String) (cap : Nat) : Nat → List TarMember → Nat
  | _, [] => 0
  | budget, member :: members =>
    if member.headerBytes ≤ budget ∧ member.accepted root cap = true then
      (if member.entryType.isFile then
        Extent.contentWithin (budget - member.headerBytes) member.extents
      else 0) +
        (if (member.entry [] none).complete = true ∧ member.failure = none ∧
            member.length ≤ budget then
          contentWithin root cap (budget - member.length) members
        else 0)
    else 0

/-- The content of an entry has no holes. -/
def TarMember.Dense (member : TarMember) : Prop :=
  ∀ extent ∈ member.extents, extent.expanded = extent.stored

variable {extents : List Extent}

theorem Extent.contentWithin_of_dense
    (dense : ∀ extent ∈ extents, extent.expanded = extent.stored) (budget : Nat) :
    contentWithin budget extents = min budget (extents.map Extent.stored).sum := by
  induction extents generalizing budget with
  | nil => simp [contentWithin]
  | cons extent extents ih =>
    have later := ih fun other inside => dense other (by simp [inside])
    rw [List.map_cons, List.sum_cons]
    cases extent with
    | hole length =>
      obtain rfl : length = 0 := dense (.hole length) (by simp)
      rw [contentWithin, later, Extent.stored, Nat.zero_add, Nat.zero_add]
    | data bytes =>
      rw [contentWithin, later, Extent.stored]
      split_ifs <;> omega

variable {root : List String} {cap : Nat} {members : List TarMember}

/-- Entries without holes hold less content than the stream has bytes. -/
theorem contentWithin_of_dense (dense : ∀ member ∈ members, member.Dense) (budget : Nat) :
    contentWithin root cap budget members ≤ budget - 1 := by
  induction members generalizing budget with
  | nil => exact Nat.zero_le _
  | cons member members ih =>
    have later := ih (fun other inside => dense other (by simp [inside]))
      (budget - member.length)
    have content := Extent.contentWithin_of_dense (dense member (by simp))
      (budget - member.headerBytes)
    have header := member.headed
    rw [contentWithin, content]
    rw [TarMember.length] at later ⊢
    split_ifs <;> omega

variable {reader : LimitedReader}

theorem readAll_of_le {wanted : Nat} (fits : wanted ≤ reader.remaining) :
    reader.readAll wanted =
      (wanted, none, { reader with remaining := reader.remaining - wanted }) := by
  simp [LimitedReader.readAll_eq, fits]

theorem readExtents_of_le (fits : (extents.map Extent.stored).sum ≤ reader.remaining) :
    (readExtents reader extents).2 =
      (none, { reader with remaining := reader.remaining - (extents.map Extent.stored).sum }) := by
  induction extents generalizing reader with
  | nil => simp [readExtents]
  | cons extent extents ih =>
    rw [List.map_cons, List.sum_cons] at fits
    cases extent with
    | hole length =>
      rw [readExtents, ih (by simpa [Extent.stored] using fits)]
      simp [Extent.stored]
    | data bytes =>
      have here : bytes.length ≤ reader.remaining := Nat.le_trans (Nat.le_add_right _ _) fits
      rw [readExtents, readAll_of_le here]
      dsimp only
      rw [ih]
      · simp [Extent.stored, Nat.sub_sub]
      · simp only [Extent.stored] at fits
        dsimp only
        omega

theorem readExtents_of_lt (exceeds : reader.remaining < (extents.map Extent.stored).sum) :
    (readExtents reader extents).2.1 = some (.cap reader.cap) := by
  induction extents generalizing reader with
  | nil => exact absurd exceeds (Nat.not_lt_zero _)
  | cons extent extents ih =>
    rw [List.map_cons, List.sum_cons] at exceeds
    cases extent with
    | hole length => exact ih (by simpa [Extent.stored] using exceeds)
    | data bytes =>
      rw [Extent.stored] at exceeds
      by_cases fits : bytes.length ≤ reader.remaining
      · rw [readExtents, readAll_of_le fits]
        exact ih (by dsimp only; omega)
      · simp [readExtents, LimitedReader.readAll_eq, fits]

/-- The reader yields the content for which it lets bytes through. -/
theorem length_readExtents (extents : List Extent) (reader : LimitedReader) :
    ((readExtents reader extents).1.map List.length).sum =
      Extent.contentWithin reader.remaining extents := by
  induction extents generalizing reader with
  | nil => rfl
  | cons extent extents ih =>
    cases extent with
    | hole length =>
      rw [readExtents, Extent.contentWithin, List.map_cons, List.sum_cons, ih,
        List.length_replicate]
    | data bytes =>
      rw [Extent.contentWithin]
      by_cases fits : bytes.length ≤ reader.remaining
      · rw [readExtents, readAll_of_le fits, if_pos fits]
        dsimp only
        rw [List.map_cons, List.sum_cons, ih]
      · rw [if_neg fits]
        simp only [readExtents, LimitedReader.readAll_eq, fits, if_false, List.map_cons,
          List.map_nil, List.sum_cons, List.sum_nil, List.length_take]
        omega

theorem acceptedBytes_readEnding (reader : LimitedReader) (ending : TarEnding) :
    acceptedBytes root cap (readEnding reader ending) = 0 := by
  unfold readEnding
  split
  · split <;> rfl
  · split <;> rfl
  · split <;> rfl

theorem acceptedBytes_member (member : TarMember) (chunks : List (List UInt8))
    (readError : Option ReadError) (items : List (Except ReadError Entry)) :
    acceptedBytes root cap (.ok (member.entry chunks readError) :: items) =
      if member.accepted root cap = true then
        (member.entry chunks readError).contentBytes +
          if (member.entry chunks readError).complete then acceptedBytes root cap items else 0
      else 0 := by
  have same : checkEntry root cap (member.entry chunks readError) =
      checkEntry root cap (member.entry [] none) := rfl
  rw [acceptedBytes, TarMember.accepted, same]
  cases checkEntry root cap (member.entry [] none) <;> rfl

/-- The entries yield the content of the bytes that the reader lets through. -/
theorem acceptedBytes_readMembers (ending : TarEnding) (members : List TarMember)
    (reader : LimitedReader) :
    acceptedBytes root cap (readMembers ending reader members) =
      contentWithin root cap reader.remaining members := by
  induction members generalizing reader with
  | nil => exact acceptedBytes_readEnding reader ending
  | cons member members ih =>
    rw [readMembers, contentWithin]
    by_cases headers : member.headerBytes ≤ reader.remaining
    swap
    · simp [LimitedReader.readAll_eq, headers, acceptedBytes]
    rw [readAll_of_le headers]
    simp only [headers, true_and]
    generalize isHeaded : ({ reader with remaining := reader.remaining - member.headerBytes } :
      LimitedReader) = headed
    have left : headed.remaining = reader.remaining - member.headerBytes := by
      rw [← isHeaded]
    have here : ∀ readError, (member.entry (readExtents headed member.extents).1
        readError).contentBytes =
        if member.entryType.isFile then
          Extent.contentWithin (reader.remaining - member.headerBytes) member.extents
        else 0 := by
      intro readError
      rw [← left, ← length_readExtents]
      rfl
    -- The reader goes on to the next entry only behind content that could be read.
    by_cases content : (member.extents.map Extent.stored).sum ≤ headed.remaining
    · rw [readExtents_of_le content]
      dsimp only
      cases failure : member.failure with
      | some message =>
        have failed : (member.entry (readExtents headed member.extents).1 none).readError =
            some (.io message) := by
          simp [TarMember.entry, failure]
        rw [failed]
        dsimp only
        rw [acceptedBytes_member, here]
        simp [acceptedBytes]
      | none =>
        have read : (member.entry (readExtents headed member.extents).1 none).readError =
            none := by
          simp [TarMember.entry, failure]
        have complete : (member.entry (readExtents headed member.extents).1 none).complete =
            (member.entry [] none).complete := rfl
        rw [read]
        dsimp only
        by_cases padding : member.length ≤ reader.remaining
        · have fits : member.padding ≤
              headed.remaining - (member.extents.map Extent.stored).sum := by
            rw [TarMember.length] at padding
            omega
          have after : headed.remaining - (member.extents.map Extent.stored).sum -
              member.padding = reader.remaining - member.length := by
            rw [TarMember.length]
            omega
          rw [readAll_of_le fits]
          dsimp only
          rw [acceptedBytes_member, here, complete, ih]
          simp only [padding, and_true, after]
        · have exceeds : ¬ member.padding ≤
              headed.remaining - (member.extents.map Extent.stored).sum := by
            rw [TarMember.length] at padding
            omega
          simp only [LimitedReader.readAll_eq, exceeds, if_false, padding, and_false, Nat.add_zero]
          rw [acceptedBytes_member, here]
          simp [acceptedBytes]
    · have failed := readExtents_of_lt (Nat.lt_of_not_le content)
      have long : ¬ member.length ≤ reader.remaining := by
        rw [TarMember.length]
        omega
      have unread : (member.entry (readExtents headed member.extents).1
          (readExtents headed member.extents).2.1).readError = some (.cap headed.cap) := by
        simp [TarMember.entry, failed]
      rw [unread]
      dsimp only
      rw [acceptedBytes_member, here]
      simp [acceptedBytes, long]

/-- An archive without holes holds no more content than the cap. -/
theorem contentWithin_new_of_dense (dense : ∀ member ∈ members, member.Dense) :
    contentWithin root cap (LimitedReader.new cap).remaining members ≤ cap := by
  have bound := @contentWithin_of_dense root cap members dense (LimitedReader.new cap).remaining
  have budget : (LimitedReader.new cap).remaining ≤ cap + 1 := Nat.min_le_left _ _
  omega

def ItemFits (cap : Nat) : Except ReadError Entry → Prop
  | .ok entry => entry.size ≤ cap ∧ ∀ limit, entry.readError ≠ some (.cap limit)
  | .error reason => ∀ limit, reason ≠ .cap limit

variable {ending : TarEnding}

theorem itemFits_readEnding {cap : Nat} (fits : ending.length < reader.remaining) :
    ∀ item ∈ readEnding reader ending, ItemFits cap item := by
  intro item inside
  unfold readEnding at inside
  split at inside
  · rw [LimitedReader.read, if_neg (by omega)] at inside
    cases inside
  · rename_i rest _
    have enough : min rest 512 ≤ reader.remaining :=
      Nat.le_trans (Nat.min_le_left _ _) (Nat.le_of_lt fits)
    rw [readAll_of_le enough] at inside
    cases inside
  · rename_i rest message
    have enough : rest ≤ reader.remaining := Nat.le_of_lt fits
    rw [readAll_of_le enough] at inside
    obtain rfl := List.mem_singleton.mp inside
    exact fun limit same => nomatch same

/-- A stream that is shorter than what the reader lets through is read without meeting the cap. -/
theorem itemFits_readMembers {cap : Nat} (sizes : ∀ member ∈ members, member.size ≤ cap)
    (fits : (members.map TarMember.length).sum + ending.length < reader.remaining) :
    ∀ item ∈ readMembers ending reader members, ItemFits cap item := by
  induction members generalizing reader with
  | nil => exact itemFits_readEnding (by simpa using fits)
  | cons member members ih =>
    rw [List.map_cons, List.sum_cons, TarMember.length] at fits
    have small := sizes member (by simp)
    have headers : member.headerBytes ≤ reader.remaining := by omega
    intro item inside
    rw [readMembers, readAll_of_le headers] at inside
    dsimp only at inside
    rw [readExtents_of_le (by dsimp only; omega)] at inside
    dsimp only at inside
    have fitting : ∀ chunks, ItemFits cap (.ok (member.entry chunks none)) := by
      refine fun chunks => ⟨small, fun limit => ?_⟩
      cases failure : member.failure <;> simp [TarMember.entry, failure]
    split at inside
    · rename_i reason failed
      rcases List.mem_cons.mp inside with rfl | last
      · exact fitting _
      · obtain rfl := List.mem_singleton.mp last
        intro limit same
        exact (fitting _).2 limit (failed.trans (congrArg some same))
    · rw [readAll_of_le (by dsimp only; omega)] at inside
      dsimp only at inside
      rcases List.mem_cons.mp inside with rfl | later
      · exact fitting _
      · exact ih (fun other isMember => sizes other (by simp [isMember])) (by dsimp only; omega)
          item later

def ComponentError.IsCap (error : ComponentError) : Prop :=
  ∃ limit, error = .capExceeded limit

theorem unpackError_not_isCap (errno : Errno) : ¬ (unpackError errno).IsCap :=
  fun ⟨_, same⟩ => nomatch same

variable {entry : Entry} {dest : List String} {reason : ComponentError}

theorem checkType_not_isCap
    (failed : checkType root dest entry = .error reason) : ¬ reason.IsCap := by
  rintro ⟨limit, rfl⟩
  unfold checkType checkSymlink checkHardLink at failed
  split at failed <;> simp [pure, Except.pure] at failed

theorem avoids_unpackOne (env : UnpackEnv) (root : List String) {cap : Nat}
    (fits : ItemFits cap (.ok entry)) :
    Avoids ComponentError.IsCap (unpackOne env root cap entry) := by
  refine Avoids.bind (avoids_ofExcept fun reason failed => ?_) fun checked => ?_
  · rcases bind_eq_error.mp failed with failed | ⟨dest, -, failed⟩
    · obtain ⟨-, rfl⟩ := orError_eq_error.mp failed
      exact fun ⟨_, same⟩ => nomatch same
    · rcases bind_eq_error.mp failed with failed | ⟨_, -, failed⟩
      · exact absurd fits.1 (require_eq_error.mp failed).1
      · rcases bind_eq_error.mp failed with failed | ⟨action, -, failed⟩
        · exact checkType_not_isCap failed
        · cases failed
  · refine avoids_place unpackError_not_isCap (fun _ ⟨_, same⟩ => nomatch same) fun _ => ?_
    refine avoids_writeFile unpackError_not_isCap env checked.1 ?_
      fun _ _ ⟨_, same⟩ => nomatch same
    rintro reason isError ⟨limit, same⟩
    cases reason with
    | cap other => exact fits.2 other isError
    | io message => cases same

theorem avoids_unpackEntries (env : UnpackEnv) (root : List String) {cap : Nat}
    {items : List (Except ReadError Entry)} (fits : ∀ item ∈ items, ItemFits cap item) :
    Avoids ComponentError.IsCap (unpackEntries env root cap items) := by
  induction items with
  | nil => exact avoids_pure
  | cons item items ih =>
    have later := ih fun other inside => fits other (by simp [inside])
    have here := fits item (by simp)
    intro machine error stopped
    rw [unpackEntries] at stopped
    cases item with
    | error reason =>
      cases stopped
      rintro ⟨limit, same⟩
      cases reason with
      | cap other => exact here other rfl
      | io message => cases same
    | ok entry =>
      exact Avoids.bind (avoids_unpackOne env root here) (fun _ => later) machine error stopped

/-- The number of bytes that a fresh reader lets through. -/
def LimitedReader.budget (cap : Nat) : Nat :=
  (LimitedReader.new cap).remaining

section Calls

variable {env : UnpackEnv} {parse : List UInt8 → TarStream} {tarballBytes : List UInt8}
  {expectedSha256 tempDir : String} {cap : Nat} {machine after : Machine String}

/-- The content that is accepted for the directory of a call keeps to the cap, if there is such a
directory and the digest is the expected one. -/
def WithinCap (env : UnpackEnv) (parse : List UInt8 → TarStream) (tarballBytes : List UInt8)
    (expectedSha256 tempDir : String) (cap : Nat) (machine : Machine String) : Prop :=
  env.sha256 tarballBytes = expectedSha256 →
    ∀ root ∈ ((openUnpackDir env tempDir (env.sha256 tarballBytes)).run machine).1.toOption,
      contentWithin root cap (LimitedReader.budget cap) (parse tarballBytes).members ≤ cap

instance : Decidable (WithinCap env parse tarballBytes expectedSha256 tempDir cap machine) :=
  inferInstanceAs (Decidable (_ → ∀ root ∈ _, _))

/-- The file system stops a call behind the making of its directory. -/
def UnpackEnv.hinders (env : UnpackEnv) (tarballBytes : List UInt8) (tempDir : String) (cap : Nat)
    (machine : Machine String) : Bool :=
  match (openUnpackDir env tempDir (env.sha256 tarballBytes)).run machine,
    env.entries tarballBytes cap with
  | (.ok root, readied), .ok items => hindered env root cap items readied
  | _, _ => false

/-- What a call writes keeps to the cap if the accepted content does, and only then unless the file
system stops the call. -/
theorem bytesWritten_le_iff :
    (WithinCap env parse tarballBytes expectedSha256 tempDir cap machine →
      bytesWritten (tarEnv env parse) tarballBytes expectedSha256 tempDir cap machine ≤ cap) ∧
    ((tarEnv env parse).hinders tarballBytes tempDir cap machine = false →
      (bytesWritten (tarEnv env parse) tarballBytes expectedSha256 tempDir cap machine ≤ cap ↔
        WithinCap env parse tarballBytes expectedSha256 tempDir cap machine)) := by
  have sameDigest : (tarEnv env parse).sha256 = env.sha256 := rfl
  have sameOpening : openUnpackDir (tarEnv env parse) = openUnpackDir env := rfl
  unfold bytesWritten WithinCap UnpackEnv.hinders
  rw [sameDigest, sameOpening]
  by_cases digest : env.sha256 tarballBytes = expectedSha256
  swap
  · simp [digest]
  simp only [digest, if_true, forall_const, tally]
  cases (openUnpackDir env tempDir expectedSha256).run machine with
  | mk result readied =>
    cases result with
    | error reason => simp [Except.toOption]
    | ok root =>
      have items : (tarEnv env parse).entries tarballBytes cap =
        .ok (readStream cap (parse tarballBytes)) := rfl
      have accepted : acceptedBytes root cap (readStream cap (parse tarballBytes)) =
          contentWithin root cap (LimitedReader.budget cap) (parse tarballBytes).members :=
        acceptedBytes_readMembers ..
      obtain ⟨atMost, exactly⟩ := @written_unpackEntries (tarEnv env parse) root cap
        (readStream cap (parse tarballBytes)) readied
      rw [accepted] at atMost exactly
      simp only [items, Except.toOption, Option.mem_def, Option.some.injEq, forall_eq']
      exact ⟨atMost.trans, fun unhindered => by rw [exactly unhindered]⟩

/-- A stream below the cap with entries below the cap is unpacked without meeting it. -/
theorem avoids_validateAndUnpack (counted : (parse tarballBytes).length < u64Max)
    (fits : (parse tarballBytes).length ≤ cap)
    (sizes : ∀ member ∈ (parse tarballBytes).members, member.size ≤ cap) :
    Avoids ComponentError.IsCap
      (validateAndUnpack (tarEnv env parse) tarballBytes expectedSha256 tempDir cap) := by
  have tempDirectory : ∀ errno, ¬ (ComponentError.tempDir (.os errno)).IsCap :=
    fun errno ⟨_, same⟩ => nomatch same
  have within : (parse tarballBytes).length < (LimitedReader.new cap).remaining :=
    Nat.lt_min.mpr ⟨Nat.lt_succ_of_le fits, counted⟩
  refine Avoids.bind (avoids_ofExcept fun reason failed => ?_) fun _ => ?_
  · obtain ⟨-, rfl⟩ := require_eq_error.mp failed
    exact fun ⟨_, same⟩ => nomatch same
  refine Avoids.bind ?_ fun root => ?_
  · exact Avoids.bind (avoids_mapError tempDirectory) fun _ => avoids_call tempDirectory
  intro readied reason stopped
  exact Avoids.bind
    (avoids_unpackEntries (tarEnv env parse) root (itemFits_readMembers sizes within))
    (fun _ => avoids_pure) readied reason stopped

end Calls

/-- Content is written up to the cap if what is accepted of the first bytes of the stream, with its
holes, keeps to it, and only then unless the file system stops the call; only holes can exceed the
cap.  A stream that keeps to the cap, as its entries do, is not refused for it. -/
theorem unpacking_within_cap_iff (env : UnpackEnv) (parse : List UInt8 → TarStream)
    (tarballBytes : List UInt8) (expectedSha256 tempDir : String) (cap : Nat)
    (machine : Machine String) :
    (WithinCap env parse tarballBytes expectedSha256 tempDir cap machine →
      bytesWritten (tarEnv env parse) tarballBytes expectedSha256 tempDir cap machine ≤ cap) ∧
    ((tarEnv env parse).hinders tarballBytes tempDir cap machine = false →
      (bytesWritten (tarEnv env parse) tarballBytes expectedSha256 tempDir cap machine ≤ cap ↔
        WithinCap env parse tarballBytes expectedSha256 tempDir cap machine)) ∧
    ((∀ member ∈ (parse tarballBytes).members, member.Dense) →
      WithinCap env parse tarballBytes expectedSha256 tempDir cap machine) ∧
    ((parse tarballBytes).length < u64Max → (parse tarballBytes).length ≤ cap →
      (∀ member ∈ (parse tarballBytes).members, member.size ≤ cap) →
      ∀ limit, ((validateAndUnpack (tarEnv env parse) tarballBytes expectedSha256 tempDir cap).run
        machine).1 ≠ .error (.capExceeded limit)) := by
  obtain ⟨enough, exactly⟩ :=
    @bytesWritten_le_iff env parse tarballBytes expectedSha256 tempDir cap machine
  refine ⟨enough, exactly, fun dense _ root _ => contentWithin_new_of_dense dense,
    fun counted fits sizes limit failed => ?_⟩
  exact avoids_validateAndUnpack counted fits sizes machine _ failed ⟨limit, rfl⟩

def sparseMember (path : String) (hole : Nat) : TarMember where
  headerBytes := 512
  headed := by decide
  entryType := .gnuSparse
  path := path
  linkName := none
  mode := .ok 0o644
  extents := [.hole hole]
  size := hole
  sized := by simp [Extent.expanded]
  failure := none
  padding := 0

def sparseStream (hole : Nat) : TarStream :=
  ⟨[sparseMember "a" hole, sparseMember "b" hole], .finished 512⟩

/-- Two sparse files with small holes are unpacked, and what is written keeps to the cap; so it does
for a single hole that is too large and therefore refused. -/
theorem small_holes_within_cap :
    (tarEnv (hostEnv []) fun _ => sparseStream 700).hinders [0] "/t" 1536 ⟨hostDisk, []⟩ = false ∧
      WithinCap (hostEnv []) (fun _ => sparseStream 700) [0] hostDigest "/t" 1536 ⟨hostDisk, []⟩ ∧
      bytesWritten (tarEnv (hostEnv []) fun _ => sparseStream 2000) [0] hostDigest "/t" 1536
        ⟨hostDisk, []⟩ ≤ 1536 ∧
      ∀ limit, ((validateAndUnpack (tarEnv (hostEnv []) fun _ => sparseStream 700) [0]
        hostDigest "/t" 1536).run ⟨hostDisk, []⟩).1 ≠ .error (.capExceeded limit) :=
  have bounds := unpacking_within_cap_iff (hostEnv []) (fun _ => sparseStream 700) [0] hostDigest
    "/t" 1536 ⟨hostDisk, []⟩
  have unhindered : (tarEnv (hostEnv []) fun _ => sparseStream 700).hinders [0] "/t" 1536
      ⟨hostDisk, []⟩ = false := by decide +kernel
  ⟨unhindered, (bounds.2.1 unhindered).mp (by decide +kernel),
    (unpacking_within_cap_iff (hostEnv []) (fun _ => sparseStream 2000) [0] hostDigest "/t" 1536
      ⟨hostDisk, []⟩).1 (by decide +kernel),
    bounds.2.2.2 (by decide +kernel) (by decide +kernel) (by decide +kernel)⟩

/-- Two sparse files with larger holes are unpacked as well, and more than the cap is written. -/
theorem holes_exceed_cap :
    ((validateAndUnpack (tarEnv (hostEnv []) fun _ => sparseStream 800) [0] hostDigest "/t"
        1536).run ⟨hostDisk, []⟩).1 = .ok "/t/component-0123456789ab" ∧
      1536 < bytesWritten (tarEnv (hostEnv []) fun _ => sparseStream 800) [0] hostDigest "/t" 1536
        ⟨hostDisk, []⟩ :=
  ⟨by decide +kernel, by decide +kernel⟩

end Cbs
