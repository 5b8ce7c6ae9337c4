import ObjectStorage.Client.Pool
import ObjectStorage.Proofs.Entries

/-!
# Options in disguise

A disguise gives other texts to the secret keys and session tokens of options, and the same where
they were the same. What counts as one client still does (`ClientOptions.InDisguise.alike_eq`), so a
pool in disguise finds, keeps and forgets the same clients; and what is shown of options tells
nothing of the texts (`ClientOptions.InDisguise.described_eq`).
-/

namespace ObjectStorage

open Text

/-- Other texts in place of texts, each for one only; the empty text stays. -/
structure Cipher where
  encode : Text → Text
  empty : encode "" = ""
  injective : Function.Injective encode

/-- Other texts for secret keys, and for session tokens. -/
structure Disguise where
  secretKey : Cipher
  sessionToken : Cipher

/-- A datum that is a text has the other text in its place; any other datum stays. -/
inductive Cipher.Replaces (cipher : Cipher) : Datum → Datum → Prop
  | text {own other : Datum} {name : Text} (named : own.name? = some name)
      (encoded : other.name? = some (cipher.encode name)) : Replaces cipher own other
  | stays {own : Datum} (unnamed : own.name? = none) : Replaces cipher own own

/-- Options with another secret key and another session token, and the same besides. -/
structure ClientOptions.InDisguise (disguise : Disguise) (own other : ClientOptions) : Prop where
  endpointUrl : other.endpointUrl = own.endpointUrl
  region : other.region = own.region
  accessKeyId : other.accessKeyId = own.accessKeyId
  secretAccessKey : disguise.secretKey.Replaces own.secretAccessKey other.secretAccessKey
  sessionToken : disguise.sessionToken.Replaces own.sessionToken other.sessionToken
  pathStyle : other.pathStyle = own.pathStyle

/-- Default options in disguise, and those of the same buckets. -/
structure StoreOptions.InDisguise (disguise : Disguise) (own other : StoreOptions) : Prop where
  defaults : own.defaults.InDisguise disguise other.defaults
  buckets : EntriesPair (ClientOptions.InDisguise disguise) own.buckets other.buckets
  retryAfter : other.retryAfter = own.retryAfter

/-- The same clients, their options in disguise. -/
structure PoolState.InDisguise (disguise : Disguise) (own other : PoolState) : Prop where
  clients : List.Forall₂ (fun entry changed =>
    entry.1.InDisguise disguise changed.1 ∧ changed.2 = entry.2) own.clients other.clients
  order : List.Forall₂ (ClientOptions.InDisguise disguise) own.order other.order

namespace Datum

/-- What is shown as a name is true unless the name is empty. -/
theorem truthy_of_name? {datum : Datum} {name : Text} (named : datum.name? = some name) :
    datum.truthy = !name.isEmpty := by
  cases datum with
  | text value =>
    cases named
    rfl
  | kind value =>
    cases named
    cases value <;> rfl
  | _ => cases named

/-- Data that are shown as names are alike exactly if the names are the same. -/
theorem alike_of_names {own other : Datum} {first second : Text} (named : own.name? = some first)
    (otherNamed : other.name? = some second) : own.alike other = (first == second) := by
  cases own with
  | text | kind =>
    cases named
    cases other with
    | text | kind =>
      cases otherNamed
      simp [alike, number?, name?]
    | _ => cases otherNamed
  | _ => cases named

/-- A text is alike no datum that is none. -/
theorem not_alike_of_name {own other : Datum} {name : Text} (named : own.name? = some name)
    (unnamed : other.name? = none) : own.alike other = false ∧ other.alike own = false := by
  cases own with
  | text | kind =>
    cases other with
    | text | kind => cases unnamed
    | _ => simp [alike, number?, name?]
  | _ => cases named

/-- What is shown as a name can be part of a key. -/
theorem unkeyable?_of_name {datum : Datum} {name : Text} (named : datum.name? = some name) :
    datum.unkeyable? = none := by
  cases datum with
  | text | kind => rfl
  | _ => cases named

end Datum

namespace Cipher

variable (cipher : Cipher)

/-- Only the empty name is encoded as the empty one. -/
theorem isEmpty_encode (name : Text) : (cipher.encode name).isEmpty = name.isEmpty := by
  have isEmpty_iff (name : Text) : name.isEmpty = true ↔ name = "" := by
    obtain ⟨points⟩ := name
    exact List.isEmpty_iff.trans
      ⟨fun none => congrArg Text.mk none, fun none => congrArg Text.points none⟩
  rw [Bool.eq_iff_iff, isEmpty_iff, isEmpty_iff]
  constructor
  · intro none
    exact cipher.injective (none.trans cipher.empty.symm)
  · rintro rfl
    exact cipher.empty

variable {cipher} {own other : Datum}

/-- A datum is true exactly if its replacement is. -/
theorem Replaces.truthy_eq (replaces : cipher.Replaces own other) : other.truthy = own.truthy := by
  cases replaces with
  | text named encoded =>
    rw [Datum.truthy_of_name? named, Datum.truthy_of_name? encoded, cipher.isEmpty_encode]
  | stays => rfl

/-- A datum and its replacement are hidden alike. -/
theorem Replaces.hidden_eq (replaces : cipher.Replaces own other) : other.hidden = own.hidden := by
  unfold Datum.hidden
  rw [replaces.truthy_eq]

/-- A replacement can be part of a key exactly if the datum can. -/
theorem Replaces.unkeyable?_eq (replaces : cipher.Replaces own other) :
    other.unkeyable? = own.unkeyable? := by
  cases replaces with
  | text named encoded =>
    rw [Datum.unkeyable?_of_name named, Datum.unkeyable?_of_name encoded]
  | stays => rfl

/-- Data are alike in disguise exactly if they are without. -/
theorem Replaces.alike_eq {second changed : Datum} (first : cipher.Replaces own other)
    (later : cipher.Replaces second changed) : other.alike changed = own.alike second := by
  cases first with
  | text named encoded =>
    cases later with
    | text named' encoded' =>
      rw [Datum.alike_of_names named named', Datum.alike_of_names encoded encoded', Bool.eq_iff_iff,
        beq_iff_eq, beq_iff_eq, cipher.injective.eq_iff]
    | stays unnamed =>
      rw [(Datum.not_alike_of_name named unnamed).1, (Datum.not_alike_of_name encoded unnamed).1]
  | stays unnamed =>
    cases later with
    | text named encoded =>
      rw [(Datum.not_alike_of_name named unnamed).2, (Datum.not_alike_of_name encoded unnamed).2]
    | stays => rfl

/-- A replacement is null exactly if the datum is. -/
theorem Replaces.null_iff (replaces : cipher.Replaces own other) : other = .null ↔ own = .null := by
  cases replaces with
  | text named encoded =>
    constructor
    · rintro rfl
      cases encoded
    · rintro rfl
      cases named
  | stays => rfl

/-- An option that is open is open in disguise. -/
theorem Replaces.overField {default changed : Datum} (own' : cipher.Replaces own other)
    (defaults : cipher.Replaces default changed) :
    cipher.Replaces (ClientOptions.overField own default)
      (ClientOptions.overField other changed) := by
  have isOwn (datum default : Datum) (given : datum ≠ .null) :
      ClientOptions.overField datum default = datum := by
    cases datum with
    | null => exact (given rfl).elim
    | _ => rfl
  by_cases isOpen : own = .null
  · rw [own'.null_iff.mpr isOpen, isOpen]
    exact defaults
  · rw [isOwn own default isOpen, isOwn other changed fun null => isOpen (own'.null_iff.mp null)]
    exact own'

end Cipher

namespace ClientOptions.InDisguise

variable {disguise : Disguise} {own other second changed : ClientOptions}

/-- Options in disguise are alike exactly if the options are. -/
theorem alike_eq (first : own.InDisguise disguise other)
    (later : second.InDisguise disguise changed) : other.alike changed = own.alike second := by
  unfold alike toDatum Datum.alike
  rw [first.endpointUrl, first.region, first.accessKeyId, first.pathStyle, later.endpointUrl,
    later.region, later.accessKeyId, later.pathStyle,
    first.secretAccessKey.alike_eq later.secretAccessKey,
    first.sessionToken.alike_eq later.sessionToken]

/-- The description of options tells nothing of a disguise. -/
theorem described_eq (same : own.InDisguise disguise other) : other.described = own.described := by
  unfold described toDatum Datum.described
  rw [same.endpointUrl, same.region, same.accessKeyId, same.pathStyle,
    same.secretAccessKey.hidden_eq, same.sessionToken.hidden_eq]

/-- Whether options can be a key does not depend on the disguise. -/
theorem unkeyable?_eq (same : own.InDisguise disguise other) :
    other.toDatum.unkeyable? = own.toDatum.unkeyable? := by
  unfold toDatum Datum.unkeyable?
  rw [same.endpointUrl, same.region, same.accessKeyId, same.pathStyle,
    same.secretAccessKey.unkeyable?_eq, same.sessionToken.unkeyable?_eq]

/-- Options can be laid over others in disguise. -/
theorem laidOver (same : own.InDisguise disguise other)
    (defaults : second.InDisguise disguise changed) :
    (own.laidOver second).InDisguise disguise (other.laidOver changed) where
  endpointUrl := congrArg₂ overField same.endpointUrl defaults.endpointUrl
  region := congrArg₂ overField same.region defaults.region
  accessKeyId := congrArg₂ overField same.accessKeyId defaults.accessKeyId
  secretAccessKey := same.secretAccessKey.overField defaults.secretAccessKey
  sessionToken := same.sessionToken.overField defaults.sessionToken
  pathStyle := congrArg₂ overField same.pathStyle defaults.pathStyle

end ClientOptions.InDisguise

/-- The options of a bucket are in disguise as well. -/
theorem StoreOptions.InDisguise.effective {disguise : Disguise} {own other : StoreOptions}
    (same : own.InDisguise disguise other) (bucket : Text) :
    (own.effective bucket).InDisguise disguise (other.effective bucket) := by
  have found := same.buckets.lookup bucket
  unfold StoreOptions.effective
  generalize own.buckets.lookup bucket = given at found ⊢
  generalize other.buckets.lookup bucket = otherGiven at found ⊢
  cases found with
  | none => exact same.defaults
  | some options => exact options.laidOver same.defaults

/-- What holds of related data alike holds of one of some exactly if it does of the related ones. -/
theorem any_of_forall₂ {α β : Type} {related : α → β → Prop} {own : List α} {other : List β}
    (pairs : List.Forall₂ related own other) {holds : α → Bool} {alsoHolds : β → Bool}
    (alike : ∀ first second, related first second → alsoHolds second = holds first) :
    other.any alsoHolds = own.any holds := by
  induction pairs with
  | nil => rfl
  | cons first rest ih => rw [List.any_cons, List.any_cons, alike _ _ first, ih]

namespace PoolState.InDisguise

variable {disguise : Disguise} {own other : PoolState} {options changed : ClientOptions}

/-- The same client is known for options in disguise. -/
theorem client?_eq (same : own.InDisguise disguise other)
    (disguised : options.InDisguise disguise changed) :
    other.client? changed = own.client? options := by
  obtain ⟨ownClients, ownOrder⟩ := own
  obtain ⟨otherClients, otherOrder⟩ := other
  obtain ⟨clients, -⟩ := same
  unfold client?
  dsimp only at clients ⊢
  induction clients with
  | nil => rfl
  | cons entries rest ih =>
    rw [List.find?_cons, List.find?_cons, entries.1.alike_eq disguised]
    split
    · exact entries.2
    · exact ih

/-- A pool in disguise notes options in disguise. -/
theorem enter (same : own.InDisguise disguise other)
    (disguised : options.InDisguise disguise changed) :
    (own.enter options).InDisguise disguise (other.enter changed) := by
  unfold PoolState.enter
  rw [any_of_forall₂ same.order fun _ _ first => first.alike_eq disguised]
  split
  · exact same
  · exact ⟨same.clients, List.rel_append same.order (.cons disguised .nil)⟩

/-- It keeps the client of options under the options in disguise. -/
theorem keep (same : own.InDisguise disguise other)
    (disguised : options.InDisguise disguise changed) (made : Option Client) :
    (own.keep options made).InDisguise disguise (other.keep changed made) := by
  obtain ⟨ownClients, ownOrder⟩ := own
  obtain ⟨otherClients, otherOrder⟩ := other
  refine ⟨?_, same.order⟩
  obtain ⟨clients, -⟩ := same
  unfold PoolState.keep
  dsimp only at clients ⊢
  induction clients with
  | nil => exact .cons ⟨disguised, rfl⟩ .nil
  | cons entries rest ih =>
    rw [putClient, putClient, entries.1.alike_eq disguised]
    split
    · exact .cons ⟨entries.1, rfl⟩ rest
    · exact .cons entries ih

/-- It has the same clients in the same order. -/
theorem inOrder_eq (same : own.InDisguise disguise other) : other.inOrder = own.inOrder := by
  have each {order changedOrder : List ClientOptions}
      (ordered : List.Forall₂ (ClientOptions.InDisguise disguise) order changedOrder) :
      changedOrder.filterMap other.client? = order.filterMap own.client? := by
    induction ordered with
    | nil => rfl
    | cons first rest ih =>
      rw [List.filterMap_cons, List.filterMap_cons, same.client?_eq first, ih]
  exact each same.order

/-- Forgetting the clients keeps the disguise. -/
theorem forget (same : own.InDisguise disguise other) :
    own.forget.InDisguise disguise other.forget := by
  refine ⟨?_, same.order⟩
  refine List.rel_filter ?_ same.clients
  intro entry changed entries
  dsimp only
  rw [any_of_forall₂ same.order fun _ _ first => entries.1.alike_eq first]

end PoolState.InDisguise

end ObjectStorage
