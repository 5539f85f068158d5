import Mathlib.Data.Finset.Dedup
import Mathlib.Data.Finset.Lattice.Lemmas
import Mathlib.Data.List.DropRight
import Cbs.Core.Releases
import Cbs.Library.Text

/-!
# Listings of a bucket

A listing comes in pages of objects and common prefixes.  The loop that reads them stops at a page
without objects, even if more pages follow.
-/

namespace Cbs

structure S3ObjectEntry where
  key : String
  size : Nat
  lastModified : Int
  deriving DecidableEq

/-- What stands behind the last slash of the key. -/
def S3ObjectEntry.name (entry : S3ObjectEntry) : String :=
  .ofList (entry.key.toList.rtakeWhile (· ≠ '/'))

structure S3ListResult where
  objects : List S3ObjectEntry
  commonPrefixes : Finset String

/-- An answer of `list_objects_v2`, which is truncated if another page follows. -/
structure S3Page where
  contents : List S3ObjectEntry
  commonPrefixes : List String

/-- The text of a key up to the first delimiter behind a prefix. -/
def commonPrefix (start : String) (delimiter : Option Char) (key : String) : Option String :=
  let rest := key.toList.drop start.length
  delimiter.bind fun char =>
    if char ∈ rest then some (start ++ .ofList (rest.takeWhile (· ≠ char) ++ [char])) else none

section Listing

variable (objects : List S3ObjectEntry) (start : String) (delimiter : Option Char)

/-- The objects with a prefix that the delimiter does not group. -/
def listedObjects : List S3ObjectEntry :=
  objects.filter fun entry =>
    Text.startsWith entry.key start && (commonPrefix start delimiter entry.key).isNone

def groupedPrefixes : List String :=
  (objects.filter (Text.startsWith ·.key start)).filterMap (commonPrefix start delimiter ·.key)

/-- The pages of a listing, which partition it. -/
structure Listing where
  pages : List S3Page
  listed : (pages.flatMap S3Page.contents).Perm (listedObjects objects start delimiter)
  grouped : ∀ text, text ∈ pages.flatMap S3Page.commonPrefixes ↔
    text ∈ groupedPrefixes objects start delimiter
  distinct : (pages.flatMap S3Page.commonPrefixes).Nodup
  /-- Only a first page may be empty. -/
  filled : ∀ page ∈ pages.tail, page.contents ≠ [] ∨ page.commonPrefixes ≠ []

/-- The result is that of the whole listing. -/
structure S3ListResult.Complete (result : S3ListResult) : Prop where
  listed : result.objects.Perm (listedObjects objects start delimiter)
  grouped : ∀ text, text ∈ result.commonPrefixes ↔ text ∈ groupedPrefixes objects start delimiter

end Listing

structure S3Service where
  objects : List S3ObjectEntry
  listObjects : ∀ start delimiter, Listing objects start delimiter

/-- The loop of `s3_list`; behind the last page it ends because that page is not truncated. -/
def readPages (objects : List S3ObjectEntry) (commonPrefixes : Finset String) :
    List S3Page → S3ListResult
  | [] => ⟨objects, commonPrefixes⟩
  | page :: rest =>
    let found := commonPrefixes ∪ (page.commonPrefixes.filter (· ≠ "")).toFinset
    if page.contents.isEmpty then ⟨objects, found⟩
    else readPages (objects ++ page.contents) found rest

def s3Delimiter (keyPrefix : Option String) (prefixAsDirectory : Bool) : Option Char :=
  if prefixAsDirectory ∧ keyPrefix.getD "" ≠ "" then some '/' else none

variable (service : S3Service)

def s3List (keyPrefix : Option String) (prefixAsDirectory : Bool) : S3ListResult :=
  readPages [] ∅
    (service.listObjects (keyPrefix.getD "") (s3Delimiter keyPrefix prefixAsDirectory)).pages

/-- How release descriptors are fetched and read; an error is that of S3 or another one. -/
structure ReleaseReader where
  download : String → Except (String ⊕ String) (Option String)
  parse : String → Option ReleaseDesc

variable (reader : ReleaseReader)

def S3ObjectEntry.isJson (entry : S3ObjectEntry) : Bool :=
  ".json".toList.isSuffixOf entry.name.toList

/-- The loop of `list_releases`. -/
def ReleaseReader.collect : List S3ObjectEntry → Dictionary String ReleaseDesc →
    Except Raised (Dictionary String ReleaseDesc)
  | [], releases => .ok releases
  | entry :: entries, releases =>
    if entry.isJson = false then collect entries releases
    else
      match reader.download entry.key with
      | .error (.inl text) => .error ⟨.release, "s3 error obtaining JSON object: " ++ text⟩
      | .error (.inr text) => .error ⟨.release, "unknown error obtaining JSON object: " ++ text⟩
      | .ok raw =>
        match (raw.filter (· ≠ "")).bind reader.parse with
        | none => collect entries releases
        | some desc => collect entries (releases.insert desc.version desc)

def listReleases (bucketLoc : String) : Except Raised (Dictionary String ReleaseDesc) :=
  reader.collect (s3List service (some (bucketLoc ++ "/")) true).objects ∅

def ReleaseReader.read (entry : S3ObjectEntry) : Option ReleaseDesc :=
  if entry.isJson then
    ((reader.download entry.key).toOption.join.filter (· ≠ "")).bind reader.parse
  else none

/-- For every object that holds a descriptor, the descriptor of one of them for the same version is
found. -/
def ReleaseReader.Finds (stored : List S3ObjectEntry) (releases : Dictionary String ReleaseDesc) :
    Prop :=
  ∀ entry ∈ stored, ∀ desc ∈ reader.read entry, ∃ found ∈ releases.lookup desc.version,
    found.version = desc.version ∧ ∃ other ∈ stored, reader.read other = some found

/-- The loop reads the first pages, and all of them if and only if none but the last is without
objects. -/
theorem readPages_spec (pages : List S3Page) {objects : List S3ObjectEntry}
    {commonPrefixes : Finset String} :
    ∃ early left, pages = early ++ left ∧ (∀ page ∈ left, page ∈ pages.tail) ∧
      readPages objects commonPrefixes pages =
        ⟨objects ++ early.flatMap S3Page.contents, commonPrefixes ∪
          ((early.flatMap S3Page.commonPrefixes).filter (· ≠ "")).toFinset⟩ ∧
      (left = [] ↔ ∀ page ∈ pages.dropLast, page.contents ≠ []) := by
  induction pages generalizing objects commonPrefixes with
  | nil => exact ⟨[], [], by simp [readPages]⟩
  | cons page rest ih =>
    rw [readPages]
    cases isContents : page.contents with
    | nil =>
      refine ⟨[page], rest, rfl, fun _ => id, by simp [isContents], ?_⟩
      cases rest <;> simp [isContents]
    | cons =>
      obtain ⟨early, left, isRest, inTail, read, all⟩ := ih
      refine ⟨page :: early, left, congrArg (page :: ·) isRest,
        fun other isLeft => List.mem_of_mem_tail (inTail other isLeft), ?_, ?_⟩
      · rw [List.isEmpty_cons, if_neg (by simp), read]
        simp [isContents, Finset.union_assoc]
      · cases rest with
        | nil => simpa using all
        | cons next rest => simp [isContents, ← all]

variable {objects : List S3ObjectEntry} {start : String} {delimiter : Option Char}

theorem empty_notMem_groupedPrefixes : "" ∉ groupedPrefixes objects start delimiter := by
  intro inside
  obtain ⟨entry, -, found⟩ := List.mem_filterMap.mp inside
  obtain ⟨char, -, found⟩ := Option.bind_eq_some_iff.mp found
  split_ifs at found
  have lengths := congrArg String.length (Option.some.inj found)
  simp at lengths

/-- What the loop does not read is missing in its result. -/
theorem Listing.complete_iff (listing : Listing objects start delimiter) :
    (readPages [] ∅ listing.pages).Complete objects start delimiter ↔
      ∀ page ∈ listing.pages.dropLast, page.contents ≠ [] := by
  obtain ⟨pages, listed, grouped, distinct, filled⟩ := listing
  obtain ⟨early, left, isPages, inTail, read, all⟩ := readPages_spec pages
  dsimp only
  rw [read, ← all]
  simp only [isPages, List.flatMap_append] at listed grouped distinct
  constructor
  · rintro ⟨objects, commonPrefixes⟩
    refine List.eq_nil_iff_forall_not_mem.mpr fun page isLeft => ?_
    rcases filled page (inTail page isLeft) with holds | holds
    · obtain ⟨entry, inside⟩ := List.exists_mem_of_ne_nil _ holds
      have lost := List.length_pos_of_mem (List.mem_flatMap.mpr ⟨page, isLeft, inside⟩)
      have lengths := (objects.trans listed.symm).length_eq
      simp only [List.nil_append, List.length_append] at lengths
      omega
    · obtain ⟨text, inside⟩ := List.exists_mem_of_ne_nil _ holds
      have lost : text ∈ left.flatMap S3Page.commonPrefixes :=
        List.mem_flatMap.mpr ⟨page, isLeft, inside⟩
      have found := (commonPrefixes text).mpr ((grouped text).mp (List.mem_append_right _ lost))
      simp only [Finset.empty_union, List.mem_toFinset, List.mem_filter] at found
      exact List.disjoint_of_nodup_append distinct found.1 lost
  · rintro rfl
    rw [List.flatMap_nil, List.append_nil] at listed grouped
    refine ⟨listed, fun text => ?_⟩
    simp only [Finset.empty_union, List.mem_toFinset, List.mem_filter, decide_eq_true_eq, grouped]
    refine and_iff_left_of_imp fun inside => ?_
    rintro rfl
    exact empty_notMem_groupedPrefixes inside

variable {service : S3Service} {reader : ReleaseReader}

/-- Of the descriptors for a version the last one is kept. -/
theorem collect_eq_ok {entries : List S3ObjectEntry} {releases : Dictionary String ReleaseDesc}
    (reached : ∀ entry ∈ entries, ∃ raw, reader.download entry.key = .ok raw) :
    ∃ result, reader.collect entries releases = .ok result ∧ ∀ version, result.lookup version =
      ((entries.filterMap reader.read).reverse.find? (·.version = version)).or
        (releases.lookup version) := by
  induction entries generalizing releases with
  | nil => exact ⟨releases, rfl, fun _ => rfl⟩
  | cons entry entries ih =>
    obtain ⟨⟨raw, isRaw⟩, later⟩ := List.forall_mem_cons.mp reached
    have isRead : reader.read entry =
        if entry.isJson then (raw.filter (· ≠ "")).bind reader.parse else none := by
      rw [ReleaseReader.read, isRaw]
      rfl
    rw [ReleaseReader.collect, isRaw, List.filterMap_cons, isRead]
    cases entry.isJson with
    | false => exact ih later
    | true =>
      simp only [Bool.true_eq_false, if_false, if_true]
      cases (raw.filter (· ≠ "")).bind reader.parse with
      | none => exact ih later
      | some desc =>
        obtain ⟨result, collected, lookups⟩ := @ih (releases.insert desc.version desc) later
        refine ⟨result, collected, fun version => ?_⟩
        rw [lookups, Dictionary.lookup_insert_eq]
        by_cases same : version = desc.version <;>
          simp [same, eq_comm, List.find?_append]

theorem collect_finds {entries stored : List S3ObjectEntry} (same : entries.Perm stored)
    (reached : ∀ entry ∈ stored, ∃ raw, reader.download entry.key = .ok raw) :
    ∃ releases, reader.collect entries ∅ = .ok releases ∧ reader.Finds stored releases := by
  obtain ⟨releases, collected, lookups⟩ := @collect_eq_ok reader entries ∅ fun entry isEntry =>
    reached entry (same.mem_iff.mp isEntry)
  refine ⟨releases, collected, fun entry isStored desc isDesc => ?_⟩
  have present : desc ∈ (entries.filterMap reader.read).reverse :=
    List.mem_reverse.mpr (List.mem_filterMap.mpr ⟨entry, same.mem_iff.mpr isStored, isDesc⟩)
  cases isFound : (entries.filterMap reader.read).reverse.find? (·.version = desc.version) with
  | none => simpa using List.find?_eq_none.mp isFound desc present
  | some found =>
    obtain ⟨other, isOther, isRead⟩ :=
      List.mem_filterMap.mp (List.mem_reverse.mp (List.mem_of_find?_eq_some isFound))
    refine ⟨found, ?_, by simpa using List.find?_some isFound, other, same.mem_iff.mp isOther,
      isRead⟩
    rw [lookups, isFound]
    rfl

/-- A listing is complete, and the releases in it are found as far as objects can be fetched, if and
only if every page but the last holds an object. -/
theorem listing_complete_iff (service : S3Service) (keyPrefix : Option String)
    (prefixAsDirectory : Bool) (reader : ReleaseReader) :
    ((s3List service keyPrefix prefixAsDirectory).Complete service.objects (keyPrefix.getD "")
        (s3Delimiter keyPrefix prefixAsDirectory) ∧
      ∀ bucketLoc, keyPrefix = some (bucketLoc ++ "/") → prefixAsDirectory = true →
        (∀ entry ∈ service.objects, ∃ raw, reader.download entry.key = .ok raw) →
          ∃ releases, listReleases service reader bucketLoc = .ok releases ∧
            reader.Finds (listedObjects service.objects (bucketLoc ++ "/") (some '/')) releases) ↔
      ∀ page ∈ (service.listObjects (keyPrefix.getD "")
        (s3Delimiter keyPrefix prefixAsDirectory)).pages.dropLast, page.contents ≠ [] := by
  rw [← Listing.complete_iff, s3List, and_iff_left_iff_imp]
  rintro complete bucketLoc rfl rfl reached
  have isDelimiter : s3Delimiter (some (bucketLoc ++ "/")) true = some '/' := by
    simp [s3Delimiter, String.append_eq_empty_iff]
  exact collect_finds (isDelimiter ▸ complete.listed) fun entry isStored =>
    reached entry (List.mem_filter.mp isStored).1

/-- A service that lists the common prefixes before the objects. -/
def S3Service.prefixesFirst (objects : List S3ObjectEntry) : S3Service where
  objects
  listObjects start delimiter :=
    { pages := ⟨[], (groupedPrefixes objects start delimiter).dedup⟩ ::
        if listedObjects objects start delimiter = [] then []
        else [⟨listedObjects objects start delimiter, []⟩]
      listed := by split_ifs with nothing <;> simp [nothing]
      grouped := fun text => by split_ifs <;> simp
      distinct := by split_ifs <;> simp [List.nodup_dedup]
      filled := by
        split_ifs with nothing
        · simp
        · simp [nothing] }

/-- A release, and a component in a directory beside it. -/
def releaseObjects : List S3ObjectEntry :=
  [⟨"releases/ceph/19.2.3.json", 120, 1⟩, ⟨"releases/ces-v19.2.3.json", 80, 2⟩]

/-- The page with the directory ends the listing before the release. -/
theorem directory_page_ends_listing :
    listedObjects releaseObjects "releases/" (some '/') = [⟨"releases/ces-v19.2.3.json", 80, 2⟩] ∧
      (s3List (.prefixesFirst releaseObjects) (some "releases/") true).objects = [] := by
  decide +kernel

end Cbs
