import ObjectStorage.Proofs.Boundary.Refusals
import ObjectStorage.Proofs.Clients.Asking
import ObjectStorage.Proofs.Grouping
import ObjectStorage.Proofs.Locations.Reading

/-!
# One address for all operations

Some operations ask the pool for the client of a location, others for that of its bucket. For a
location that was read, and for every location below it, both are the same (`Location.Found`,
`StoreOptions.identityOf_found`): no such bucket can be taken for a location, and the text of the
location reads as one in the same bucket. So whatever a store asks for at a location, it asks for by
one client, in one bucket and under one key (`BucketStore.addresses`).
-/

namespace ObjectStorage

open Text Time

variable {σ : Type}

/-- The locations that data other than locations read as, and those below them by any names. -/
inductive Location.Found : Location → Prop
  | read {source : Datum} {location : Location} (plain : ∀ own, source ≠ .location own)
      (read : source.toLocation = .ok location) : Found location
  | child {location below : Location} {name : Datum} (found : Found location)
      (named : location.childAt name = .ok below) : Found below

namespace Location

variable {location : Location}

theorem Found.written (found : location.Found) : location.Written := by
  induction found with
  | read plain read => exact .of_toLocation plain read
  | @child location below name found named ih =>
    unfold childAt at named
    split at named
    · cases named
      exact ih
    · split at named
      · cases named
        exact ih.child _
      · cases named

/-- The path of a location is nothing, or a slash and the key. -/
theorem Written.path_eq (written : location.Written) (given : location.path ≠ "") :
    location.path = "/" ++ keyOfPath location.path := by
  rcases written.slashed with empty | ⟨rest, slash⟩
  · exact (given (congrArg Text.mk empty)).elim
  · unfold keyOfPath
    rw [slash]
    exact congrArg Text.mk slash

end Location

/-- The targets by which a pool can be asked for the client of a location: the location, its text,
and its bucket. -/
def Location.targets (location : Location) : List Datum :=
  [.location location, .text location.text, .text location.authority]

/-- All targets of a location in a bucket have the identity of the bucket. -/
theorem StoreOptions.identityOf_found (options : StoreOptions) {location : Location}
    (found : location.Found) (named : location.authority ≠ "") :
    ∀ target ∈ location.targets,
      options.identityOf target = .ok (options.effective location.authority) := by
  have written := found.written
  have whole := Location.needAuthority_ok_iff.mpr named
  have bucket : ∀ target ∈ location.targets, bucketOf target = .ok location.authority := by
    refine List.forall_mem_cons.mpr ⟨whole, List.forall_mem_cons.mpr ⟨?_,
      List.forall_mem_singleton.mpr ?_⟩⟩
    · change (if looksLikeLocation location.text then _ else _ : Except Fault Text) = _
      rw [if_pos written.looksLikeLocation]
      change (do ((← (Location.ofText location.text).mapError Fault.ofLocation)).needAuthority) = _
      rw [written.ofText_text]
      change Location.needAuthority ⟨location.scheme, location.authority, _⟩ = _
      exact Location.needAuthority_ok_iff.mpr named
    · change (if looksLikeLocation location.authority then _ else _ : Except Fault Text) = _
      rw [Location.not_looksLikeLocation written.slashless]
      rfl
  exact fun target known => identityOf_of_bucket (bucket target known)

/-- The single options. -/
def ClientOptions.fields : List (ClientOptions → Datum) :=
  [endpointUrl, region, accessKeyId, secretAccessKey, sessionToken, pathStyle]

/-- An option laid over a default leaves it exactly where it is open. -/
theorem ClientOptions.laidOver_field (own defaults : ClientOptions) :
    ∀ field ∈ fields, (field own = .null → field (own.laidOver defaults) = field defaults) ∧
      (field own ≠ .null → field (own.laidOver defaults) = field own) := by
  have laid (option default : Datum) : (option = .null → overField option default = default) ∧
      (option ≠ .null → overField option default = option) := by
    unfold overField
    split
    · exact ⟨fun _ => rfl, fun given => (given rfl).elim⟩
    · next given => exact ⟨fun same => (given same).elim, fun _ => rfl⟩
  simp only [fields, List.forall_mem_cons]
  exact ⟨laid _ _, laid _ _, laid _ _, laid _ _, laid _ _, laid _ _, nofun⟩

theorem StoreOptions.effective_of_lookup {options : StoreOptions} {bucket : Text}
    {own : ClientOptions} (entry : options.buckets.lookup bucket = some own) :
    options.effective bucket = own.laidOver options.defaults := by
  unfold effective
  rw [entry]

theorem StoreOptions.effective_of_absent {options : StoreOptions} {bucket : Text}
    (absent : options.buckets.lookup bucket = none) :
    options.effective bucket = options.defaults := by
  unfold effective
  rw [absent]

/-- Targets of one identity have one client. -/
theorem ClientPool.clientAt_congr (pool : ClientPool σ) {target other : Datum}
    (same : pool.options.identityOf target = pool.options.identityOf other) :
    pool.clientAt target = pool.clientAt other := by
  unfold clientAt
  rw [same]

theorem ClientPool.Asks.retarget {pool : ClientPool σ} {target other : Datum} {scene : Scene σ}
    {sends : Client → Request → Prop} {request : Request}
    (same : pool.options.identityOf target = pool.options.identityOf other)
    (asks : pool.Asks target scene sends request) : pool.Asks other scene sends request := by
  cases asks with
  | opens identity => exact .opens (same ▸ identity)
  | sends own sent => exact .sends (pool.clientAt_congr same ▸ own) sent

namespace BucketStore

/-- The request of a batch in which a location is alone. -/
def clearRequest (location : Location) (client : Client) : Request :=
  .deleteObjects client.number location.authority [Location.keyOfPath location.path]

/-- All operations of a store address a location by one client, in one bucket, under one key. -/
structure Addresses (store : BucketStore σ) (location : Location) : Prop where
  /-- However it is told, the location has the identity of its bucket. -/
  identity : ∀ target ∈ location.targets, store.pool.options.identityOf target =
    .ok (store.pool.options.effective location.authority)
  /-- That is what is given for the bucket, laid over the defaults option by option. -/
  given : ∀ own, store.pool.options.buckets.lookup location.authority = some own →
    ∀ field ∈ ClientOptions.fields,
      (field own = .null → field (store.pool.options.effective location.authority) =
        field store.pool.options.defaults) ∧
      (field own ≠ .null → field (store.pool.options.effective location.authority) = field own)
  absent : store.pool.options.buckets.lookup location.authority = none →
    store.pool.options.effective location.authority = store.pool.options.defaults
  /-- So it has one client. -/
  client : ∀ target ∈ location.targets,
    store.pool.clientAt target = store.pool.clientAt (.location location)
  /-- The key is the path without its first slash. -/
  key : location.path ≠ "" → location.path = "/" ++ Location.keyOfPath location.path
  ping : ∀ (source : Datum) (scene : Scene σ), source.toLocation = .ok location →
    (store.ping source).AsksOnly scene
      (store.pool.Asks (.location location) scene fun client sent =>
        sent = headRequest location client)
  read : ∀ (source : Datum) (scene : Scene σ), source.toLocation = .ok location →
    (store.read source).AsksOnly scene
      (store.pool.Asks (.location location) scene fun client sent =>
        sent = getRequest location client)
  /-- A sink asks when it commits, in whatever scene that is. -/
  commit : ∀ (source : Datum) (opened : Scene σ) (target : SinkTarget (Scene σ)),
    source.toLocation = .ok location → (store.openSink source opened).1 = .ok target →
      ∀ (payload : List UInt8) (scene : Scene σ), (target.commit payload).AsksOnly scene
        (store.pool.Asks (.location location) scene fun client sent =>
          sent = putRequest payload location client)
  delete : ∀ (source : Datum) (scene : Scene σ), source.toLocation = .ok location →
    (store.delete (.list [source])).AsksOnly scene
      (store.pool.Asks (.location location) scene fun client sent =>
        sent = clearRequest location client)

/-- A request of a batch delete: it is for the bucket of one of the places, in the scene that the
buckets before it left, and for a piece of the keys that places have in this bucket. -/
def AsksAmong (store : BucketStore σ) (places : List Location) (scene : Scene σ)
    (request : Request) : Prop :=
  ∃ place ∈ places, ∃ earlier later,
    keysByBucket places =
      earlier ++ (place.authority, keysIn places place.authority) :: later ∧
    store.pool.Asks (.location place) (store.deleteGroups earlier scene).2
      (sendsPieces place.authority (chunksOf batchLimit (keysIn places place.authority))) request

variable (store : BucketStore σ) {location : Location}

/-- A visit by the name of its bucket is one of a found location. -/
theorem visit_found (found : location.Found) (named : location.authority ≠ "") (method : String)
    {target : Datum} (known : target ∈ location.targets) (request : Client → Request)
    {α : Type} (act : Client → Act σ α) (scene : Scene σ) :
    (store.visit method target request act).AsksOnly scene
      (store.pool.Asks (.location location) scene fun client sent => sent = request client) := by
  have identity := store.pool.options.identityOf_found found named
  apply (store.visit_asksOnly method (identity target known) request act).mono
  exact fun _ asks =>
    asks.retarget ((identity target known).trans (identity _ List.mem_cons_self).symm)

/-- An operation on what a check answers asks for what it asks for there. -/
theorem tallied_place_asksOnly {α γ : Type} {holds : Request → Prop} {scene : Scene σ}
    (operation : Operation) {place : Except Fault γ} {next : γ → Act (Scene σ) α}
    (later : ∀ own, place = .ok own → (next own).AsksOnly scene holds) :
    (Scene.tallied operation (Act.ofExcept place >>= next)).AsksOnly scene holds := by
  apply Act.AsksOnly.tallied
  apply Act.AsksOnly.bind (.ofExcept place)
  rintro own after given
  cases given
  exact later own rfl

theorem ping_asksOnly (found : location.Found) (named : location.authority ≠ "") {source : Datum}
    (read : source.toLocation = .ok location) (scene : Scene σ) :
    (store.ping source).AsksOnly scene (store.pool.Asks (.location location) scene
      fun client sent => sent = headRequest location client) := by
  apply tallied_place_asksOnly
  intro own fit
  cases (Datum.toBucketLocation_ok fit).1.symm.trans read
  apply Act.AsksOnly.bind
  · exact (store.visit_found found named "head_bucket" (by simp [Location.targets])
      (headRequest location) _ scene).caught
  · intro answered after _
    split
    · exact .pure _
    · exact .fail _

theorem read_asksOnly (found : location.Found) (named : location.authority ≠ "") {source : Datum}
    (read : source.toLocation = .ok location) (scene : Scene σ) :
    (store.read source).AsksOnly scene (store.pool.Asks (.location location) scene
      fun client sent => sent = getRequest location client) := by
  apply tallied_place_asksOnly
  intro own fit
  cases (Datum.toObjectLocation_ok fit).1.symm.trans read
  apply Act.AsksOnly.bind
  · exact (store.visit_found found named "get_object" (by simp [Location.targets])
      (getRequest location) _ scene).guarded store _
  · exact fun _ _ _ => .ofExcept _

theorem commit_asksOnly (found : location.Found) (named : location.authority ≠ "")
    (payload : List UInt8) (scene : Scene σ) :
    (store.commit location payload).AsksOnly scene (store.pool.Asks (.location location) scene
      fun client sent => sent = putRequest payload location client) :=
  ((store.visit_found found named "put_object" (by simp [Location.targets])
    (putRequest payload location) _ scene).guarded store _).tallied .write

/-- A batch asks for the buckets of its places one after the other. -/
theorem delete_asksOnly {places : List Location} (found : ∀ place ∈ places, place.Found)
    {locations : Datum} {items : List Datum} (listed : locations.items = .ok items)
    (fit : items.mapM Datum.toObjectLocation = .ok places) (scene : Scene σ) :
    (store.delete locations).AsksOnly scene (store.AsksAmong places scene) := by
  have identified : ∀ place ∈ places, ∀ target ∈ place.targets,
      store.pool.options.identityOf target =
        .ok (store.pool.options.effective place.authority) := by
    intro place inside
    obtain ⟨item, _, read⟩ := Except.mapM_ok fit inside
    have named := Location.needAuthority_ok_iff.mp (Datum.toObjectLocation_ok read).2.2.1
    exact store.pool.options.identityOf_found (found place inside) named
  have byName (place : Location) : Datum.text place.authority ∈ place.targets := by
    simp [Location.targets]
  have groups : ∀ group ∈ keysByBucket places, ∃ options,
      store.pool.options.identityOf (.text group.1) = .ok options := by
    rintro ⟨bucket, keys⟩ group
    obtain ⟨⟨place, inside, rfl⟩, _⟩ := mem_keysByBucket group
    exact ⟨_, identified place inside _ (byName place)⟩
  rw [store.delete_listed listed]
  apply tallied_place_asksOnly
  intro parsed same
  cases fit.symm.trans same
  apply Act.AsksOnly.bind
  · apply (store.deleteGroups_asksOnly groups scene).mono
    rintro request ⟨earlier, bucket, keys, later, turn, asks⟩
    have group : (bucket, keys) ∈ keysByBucket places := turn ▸ by simp
    obtain ⟨⟨place, inside, rfl⟩, rfl⟩ := mem_keysByBucket group
    refine ⟨place, inside, earlier, later, turn, asks.retarget ?_⟩
    exact (identified place inside _ (byName place)).trans
      (identified place inside _ List.mem_cons_self).symm
  · intro failures after _
    split
    · exact .fail _
    · exact .pure _

/-- A place alone in a batch is the place of all requests. -/
theorem deleteOne_asksOnly (found : location.Found) {source : Datum}
    (read : source.toLocation = .ok location) (scene : Scene σ) :
    (store.delete (.list [source])).AsksOnly scene (store.pool.Asks (.location location) scene
      fun client sent => sent = clearRequest location client) := by
  have listed : (Datum.list [source]).items = .ok [source] := rfl
  cases fit : source.toObjectLocation with
  | error fault =>
    rw [store.delete_listed listed, List.mapM_cons, fit]
    exact tallied_place_asksOnly .delete nofun
  | ok own =>
    cases (Datum.toObjectLocation_ok fit).1.symm.trans read
    have fits : [source].mapM Datum.toObjectLocation = .ok [location] := by
      rw [List.mapM_cons, fit]
      rfl
    apply (store.delete_asksOnly (List.forall_mem_singleton.mpr found) listed fits scene).mono
    rintro request ⟨place, inside, earlier, later, turn, asks⟩
    cases List.mem_singleton.mp inside
    have alone : earlier = [] := by
      have lengths := congrArg List.length turn
      rw [List.length_append, List.length_cons] at lengths
      have one : (keysByBucket [location]).length = 1 := rfl
      exact List.length_eq_zero_iff.mp (by omega)
    have pieces : chunksOf batchLimit (keysIn [location] location.authority) =
        [[Location.keyOfPath location.path]] := by
      simp [keysIn, chunksOf]
    rw [alone, pieces] at asks
    cases asks with
    | opens identity => exact .opens identity
    | sends own sent =>
      obtain ⟨piece, among, rfl⟩ := sent
      cases List.mem_singleton.mp among
      exact .sends own rfl

/-- All operations of a store address a found location in the same way. -/
theorem addresses {places : List Location} (found : ∀ place ∈ places, place.Found)
    (named : ∀ place ∈ places, place.authority ≠ "") :
    (∀ place ∈ places, store.Addresses place) ∧
      ∀ (locations : Datum) (items : List Datum) (scene : Scene σ),
        locations.items = .ok items → items.mapM Datum.toObjectLocation = .ok places →
          (store.delete locations).AsksOnly scene (store.AsksAmong places scene) := by
  refine ⟨fun place inside => ?_, fun _ _ scene listed fit =>
    store.delete_asksOnly found listed fit scene⟩
  have own := found place inside
  have given := named place inside
  have identity := store.pool.options.identityOf_found own given
  constructor
  · exact identity
  · intro entry known
    rw [StoreOptions.effective_of_lookup known]
    exact entry.laidOver_field store.pool.options.defaults
  · exact StoreOptions.effective_of_absent
  · intro target known
    exact store.pool.clientAt_congr
      ((identity target known).trans (identity _ List.mem_cons_self).symm)
  · exact own.written.path_eq
  · exact fun source scene read => store.ping_asksOnly own given read scene
  · exact fun source scene read => store.read_asksOnly own given read scene
  · intro source opened target read answered payload scene
    rw [store.openSink_eq source] at answered
    cases fit : source.toObjectLocation with
    | error fault =>
      rw [fit] at answered
      cases answered
    | ok there =>
      rw [fit] at answered
      cases answered
      cases (Datum.toObjectLocation_ok fit).1.symm.trans read
      exact store.commit_asksOnly own given payload scene
  · exact fun source scene read => store.deleteOne_asksOnly own read scene

/-- A store with a region for all buckets but one, which has its own. -/
def regionalStore : BucketStore Unit :=
  ⟨"pool", silentService, ⟨{ ClientOptions.empty with region := .text "eu" },
    [("b", { ClientOptions.empty with region := .text "us" })], none⟩, .options⟩

/-- A place that was read, and one below another. The blank at the end of its path is lost when its
text is read. -/
def readPlaces : List Location :=
  [⟨"s3", "b", "/k"⟩, ⟨"s3n", "c", "/x "⟩]

theorem readPlaces_found : ∀ place ∈ readPlaces, place.Found := by
  have first : Datum.toLocation (.text "S3://b/k") = .ok ⟨"s3", "b", "/k"⟩ := rfl
  have above : Datum.toLocation (.text "s3n://c") = .ok ⟨"s3n", "c", ""⟩ := rfl
  have second : Location.childAt ⟨"s3n", "c", ""⟩ (.text "x ") = .ok ⟨"s3n", "c", "/x "⟩ := rfl
  have plain : ∀ text own, Datum.text text ≠ .location own := by
    rintro text own ⟨⟩
  exact List.forall_mem_cons.mpr ⟨.read (plain _) first,
    List.forall_mem_singleton.mpr (.child (.read (plain _) above) second)⟩

theorem regionalStore_addresses :
    (∀ place ∈ readPlaces, place.Found) ∧ (∀ place ∈ readPlaces, place.authority ≠ "") ∧
    (∀ place ∈ readPlaces, regionalStore.Addresses place) ∧
      ∀ (locations : Datum) (items : List Datum) (scene : Scene Unit),
        locations.items = .ok items → items.mapM Datum.toObjectLocation = .ok readPlaces →
          (regionalStore.delete locations).AsksOnly scene
            (regionalStore.AsksAmong readPlaces scene) :=
  ⟨readPlaces_found, by decide, regionalStore.addresses readPlaces_found (by decide)⟩

end BucketStore

end ObjectStorage
