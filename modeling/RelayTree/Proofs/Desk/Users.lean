import Mathlib.Data.List.Nodup
import RelayTree.Proofs.Desk.Owners
import RelayTree.Proofs.Registration

/-!
# The users of a client

A directory lists its users twice: under their keys, with the queue of each, and as tokens under
the name of the client, in the order of their connection. A message for one user is put on a queue
by the first list, one for all users of a client by the second. `Mirrored` says that the two list
the same users, and every connection and disconnection keeps it. So the users of a client can be
told from the keys alone, and the queues that are found for the client are theirs, one for each.
-/

namespace RelayTree

namespace UserDirectory

/-- Both lists are of the same users, with each of them once, and a client without users is not
listed at all. -/
structure Mirrored (directory : UserDirectory) : Prop where
  listed : ∀ key : UserKey,
    key.userToken ∈ directory.tokens key.host ↔ directory.byKey.contains key = true
  once : ∀ client, (directory.tokens client).Nodup
  inhabited : ∀ client, directory.byHost.get? client ≠ some []

/-- The users of a client, by their keys, as the list under keys has them. -/
def usersOf (directory : UserDirectory) (client : String) : List UserKey :=
  directory.byKey.keys.filter (·.host = client)

/-- The queue of a user that is connected, and none for any other. -/
def queue? (directory : UserDirectory) (key : UserKey) : Option QueueId :=
  (directory.byKey.get? key).map (·.queue)

variable {directory later : UserDirectory} {client : String} {key : UserKey} {queue : QueueId}

/-- The users of a client are the connected users whose keys name it. -/
theorem mem_users :
    key ∈ directory.usersOf client ↔ directory.byKey.contains key = true ∧ key.host = client := by
  rw [usersOf, List.mem_filter, SortedMap.mem_keys, decide_eq_true_eq]

/-- No user is listed twice, since no key is in a map twice. -/
theorem users_nodup (directory : UserDirectory) (client : String) :
    (directory.usersOf client).Nodup := (SortedMap.keys_nodup directory.byKey).filter _

/-- Asking for a queue succeeds for just those who have one, and gives that one. -/
theorem queue_of_iff : directory.queueOf key = .ok queue ↔ directory.queue? key = some queue := by
  unfold queueOf queue?
  cases directory.byKey.get? key <;> simp

/-- Exactly the connected users have a queue. Each got one when it connected. -/
theorem queue_isSome : (directory.queue? key).isSome = directory.byKey.contains key :=
  Option.isSome_map

/-- A user is connected if and only if there is a queue to be found for it. -/
theorem connected_iff : directory.byKey.contains key = true ↔
    ∃ queue, directory.queueOf key = .ok queue := by
  simp only [queue_of_iff, ← Option.isSome_iff_exists, queue_isSome]

/-! ## What keeps the lists alike -/

/-- A new user is the last one in the list of its client. It was on no list before, as it had no
entry, and therefore no list has it twice afterwards. -/
theorem mirrored_added (key : UserKey) (mirrored : directory.Mirrored)
    (fresh : directory.byKey.contains key = false)
    (keys : ∀ other, later.byKey.contains other = true ↔
      other = key ∨ directory.byKey.contains other = true)
    (tokens : ∀ client, later.tokens client =
      if client = key.host then directory.tokens client ++ [key.userToken]
      else directory.tokens client)
    (inhabited : ∀ client, later.byHost.get? client ≠ some []) : later.Mirrored where
  listed := fun other => by
    obtain ⟨client, token⟩ := other
    obtain ⟨host, userToken⟩ := key
    rw [keys, tokens, ← mirrored.listed]
    by_cases same : client = host <;> simp [same, or_comm]
  once := fun client => by
    rw [tokens]
    split
    · rename_i same
      have absent : key.userToken ∉ directory.tokens client := by
        rw [same, mirrored.listed, fresh]
        exact Bool.false_ne_true
      exact (List.nodup_append_comm.mp (List.nodup_cons.mpr ⟨absent, mirrored.once client⟩))
    · exact mirrored.once client
  inhabited := inhabited

/-- A user that is taken out leaves the others in their order. What must be known of the new
directory is said of its two lists, so that it does not matter how they were made. -/
theorem mirrored_removed (key : UserKey) (mirrored : directory.Mirrored)
    (keys : ∀ other, later.byKey.contains other = true ↔
      other ≠ key ∧ directory.byKey.contains other = true)
    (tokens : ∀ client, later.tokens client =
      if client = key.host then (directory.tokens client).filter (· ≠ key.userToken)
      else directory.tokens client)
    (inhabited : ∀ client, later.byHost.get? client ≠ some []) : later.Mirrored where
  listed := fun other => by
    obtain ⟨client, token⟩ := other
    obtain ⟨host, userToken⟩ := key
    rw [keys, tokens, ← mirrored.listed]
    by_cases same : client = host <;> simp [same, and_comm]
  once := fun client => by
    rw [tokens]
    split
    · exact (mirrored.once client).filter _
    · exact mirrored.once client
  inhabited := inhabited

/-- A directory without users lists nobody in either way. -/
theorem create_mirrored (queues : QueueStore) : (create queues).1.Mirrored where
  listed := fun _ => by simp [create, tokens, SortedMap.contains]
  once := fun _ => List.nodup_nil
  inhabited := fun _ => nofun

/-- A new user is put behind the others of its client, and the users of other clients stay as they
were. -/
theorem connect_tokens (queues : QueueStore) (key : UserKey) (device client : String)
    (fresh : directory.byKey.contains key = false) :
    (directory.connect queues key device).state.1.tokens client =
      if client = key.host then directory.tokens client ++ [key.userToken]
      else directory.tokens client := by
  rw [connect, if_neg (Bool.eq_false_iff.mp fresh)]
  simp only [tokens, SortedMap.get?_insert]
  split <;> simp [*]

/-- Connecting keeps the two lists alike: a user that is connected already is refused, and a new one
goes into both. -/
theorem connect_mirrored (queues : QueueStore) (key : UserKey) (device : String)
    (mirrored : directory.Mirrored) : (directory.connect queues key device).state.1.Mirrored := by
  cases fresh : directory.byKey.contains key with
  | true =>
    rw [connect, if_pos fresh]
    exact mirrored
  | false =>
    refine mirrored_added key mirrored fresh ?_ (fun client => connect_tokens _ _ _ client fresh) ?_
    · intro other
      rw [connect, if_neg (Bool.eq_false_iff.mp fresh)]
      simp only [SortedMap.contains, SortedMap.get?_insert]
      split <;> simp [*]
    · intro client
      rw [connect, if_neg (Bool.eq_false_iff.mp fresh)]
      simp only [SortedMap.get?_insert]
      split
      · simp
      · exact mirrored.inhabited client

/-- A token is taken off the list of its host, and so is the list if nothing is left of it. -/
theorem without_token_get (byHost : SortedMap String (List String)) (key : UserKey)
    (client : String) :
    (withoutToken byHost key).get? client =
      if client = key.host then
        ((byHost.get? client).map (·.filter (· ≠ key.userToken))).filter (!·.isEmpty)
      else byHost.get? client := by
  unfold withoutToken
  by_cases same : client = key.host
  · subst same
    rw [if_pos rfl]
    cases found : byHost.get? key.host with
    | none => simp [found]
    | some tokens =>
      dsimp only [Option.map_some]
      generalize tokens.filter (· ≠ key.userToken) = left
      cases left <;> simp [Option.filter]
  · rw [if_neg same]
    cases byHost.get? key.host with
    | none => rfl
    | some tokens =>
      dsimp only
      generalize tokens.filter (· ≠ key.userToken) = left
      cases left <;> simp [same]

/-- A user that leaves is taken off the list of its client, where it stood once. Other clients keep
their lists. -/
theorem disconnect_tokens {user : RemoteUser} (queues : QueueStore) (key : UserKey)
    (client : String) (connected : directory.byKey.get? key = some user) :
    (directory.disconnect queues key).state.1.tokens client =
      if client = key.host then (directory.tokens client).filter (· ≠ key.userToken)
      else directory.tokens client := by
  simp only [disconnect, connected, tokens, without_token_get]
  split
  · cases directory.byHost.get? client with
    | none => rfl
    | some tokens =>
      dsimp only [Option.map_some, Option.getD_some]
      generalize tokens.filter (· ≠ key.userToken) = left
      cases left <;> rfl
  · rfl

/-- Disconnecting keeps the two lists alike: a user that is not connected cannot leave, and one that
is goes out of both. -/
theorem disconnect_mirrored (queues : QueueStore) (key : UserKey)
    (mirrored : directory.Mirrored) : (directory.disconnect queues key).state.1.Mirrored := by
  cases connected : directory.byKey.get? key with
  | none =>
    rw [disconnect, connected]
    exact mirrored
  | some user =>
    refine mirrored_removed key mirrored ?_
      (fun client => disconnect_tokens queues key client connected) ?_
    · intro other
      simp only [disconnect, connected, SortedMap.contains, SortedMap.get?_erase]
      split <;> simp [*]
    · intro client
      simp only [disconnect, connected, without_token_get]
      split
      · intro listed
        obtain ⟨_, bare⟩ := Option.filter_eq_some_iff.mp listed
        cases bare
      · exact mirrored.inhabited client

end UserDirectory

namespace Desk

variable {desk : Desk}

/-- An errand keeps the two lists of users alike. Only connections and disconnections touch them. -/
theorem run_mirrored (errand : Errand) (queues : QueueStore) (mirrored : desk.users.Mirrored) :
    (desk.run queues errand).1.users.Mirrored := by
  cases errand with
  | connect key device => exact UserDirectory.connect_mirrored queues key device mirrored
  | disconnect key => exact UserDirectory.disconnect_mirrored queues key mirrored
  | serve | handle | createQueue => exact mirrored

/-- So do errands in order, by induction on the errands that are left to run. -/
theorem run_all_mirrored (errands : List Errand) (queues : QueueStore)
    (mirrored : desk.users.Mirrored) : (desk.runAll queues errands).1.users.Mirrored := by
  induction errands generalizing desk queues with
  | nil => exact mirrored
  | cons errand rest inductionHypothesis =>
    exact inductionHypothesis _ (run_mirrored errand queues mirrored)

/-- Whoever came and went at a desk, its two lists are of the same users. -/
theorem after_mirrored (host : String) (queues : QueueStore) (errands : List Errand) :
    (after host queues errands).1.users.Mirrored :=
  run_all_mirrored errands _ (UserDirectory.create_mirrored _)

end Desk

/-! ## The queues of a client -/

namespace UserDirectory

variable {directory : UserDirectory} {client : String}

/-- The tokens of a client are those of its users, in another order: by connection on the one side
and by token on the other. -/
theorem tokens_perm (mirrored : directory.Mirrored) (client : String) :
    ((directory.tokens client).map (UserKey.mk client)).Perm (directory.usersOf client) := by
  refine (List.perm_ext_iff_of_nodup ?_ (users_nodup directory client)).mpr fun key => ?_
  · exact (mirrored.once client).map fun _ _ same => congrArg UserKey.userToken same
  · rw [mem_users, ← mirrored.listed, List.mem_map]
    constructor
    · rintro ⟨token, listed, rfl⟩
      exact ⟨listed, rfl⟩
    · rintro ⟨listed, rfl⟩
      exact ⟨key.userToken, listed, rfl⟩

/-- A client without users counts as not connected, and asking for its queues fails. An empty list
would be found and would not fail, but no client has an empty list. -/
theorem queues_of_nobody (mirrored : directory.Mirrored) (nobody : directory.usersOf client = []) :
    directory.queuesOf client = .error (.hostNotConnected client) := by
  have bare : directory.tokens client = [] := by
    have perm := tokens_perm mirrored client
    rw [nobody] at perm
    exact List.map_eq_nil_iff.mp perm.eq_nil
  unfold queuesOf
  cases found : directory.byHost.get? client with
  | none => rfl
  | some listed =>
    rw [tokens, found, Option.getD_some] at bare
    exact absurd (bare ▸ found) (mirrored.inhabited client)

/-- Of a client with users, the queues of its users are found, one for each and in some order. -/
theorem queues_of_users (mirrored : directory.Mirrored)
    (inhabited : directory.usersOf client ≠ []) :
    ∃ addressed, directory.queuesOf client = .ok addressed ∧
      addressed.Perm ((directory.usersOf client).filterMap directory.queue?) := by
  have perm := (tokens_perm mirrored client).filterMap directory.queue?
  rw [List.filterMap_map] at perm
  unfold queuesOf
  cases found : directory.byHost.get? client with
  | none =>
    have users := tokens_perm mirrored client
    rw [tokens, found, Option.getD_none, List.map_nil, List.nil_perm] at users
    exact absurd users inhabited
  | some listed =>
    rw [tokens, found, Option.getD_some] at perm
    exact ⟨_, rfl, perm⟩

/-- Queues are those of some users, one for each of them that is connected. -/
structure Addresses (directory : UserDirectory) (users : UserKey → Prop)
    (addressed : List QueueId) : Prop where
  distinct : addressed.Nodup
  owners : ∀ queue, queue ∈ addressed ↔ ∃ key, users key ∧ directory.queueOf key = .ok queue

variable {users others : UserKey → Prop} {addressed : List QueueId}

/-- Users that are not connected make no difference to who is addressed, as they have no queue. -/
theorem addresses_congr (addresses : directory.Addresses users addressed)
    (same : ∀ key, directory.byKey.contains key = true → (users key ↔ others key)) :
    directory.Addresses others addressed where
  distinct := addresses.distinct
  owners := fun queue => (addresses.owners queue).trans <| exists_congr fun key =>
    and_congr_left fun own => same key (connected_iff.mpr ⟨queue, own⟩)

/-- Where none of them is connected there is no queue to address. -/
theorem addresses_nobody (absent : ∀ key, users key → directory.byKey.contains key = false) :
    directory.Addresses users [] where
  distinct := List.nodup_nil
  owners := fun queue => by
    simp only [List.not_mem_nil, false_iff]
    rintro ⟨key, meant, own⟩
    have connected := connected_iff.mpr ⟨queue, own⟩
    rw [absent key meant] at connected
    cases connected

/-- A single user that is connected has one queue, which is the only one addressed. -/
theorem addresses_single {key : UserKey} {queue : QueueId}
    (own : directory.queueOf key = .ok queue) : directory.Addresses (· = key) [queue] where
  distinct := List.nodup_singleton queue
  owners := fun other => by simp [own, eq_comm]

end UserDirectory

/-- The queues of a client are as many as it has users, for no queue has two owners. -/
theorem Desk.client_queues {desk : Desk} {queues : QueueStore} {client : String}
    (owned : desk.Owned queues) (mirrored : desk.users.Mirrored)
    (inhabited : desk.users.usersOf client ≠ []) :
    ∃ addressed, desk.users.queuesOf client = .ok addressed ∧
      addressed.length = (desk.users.usersOf client).length ∧
      desk.users.Addresses (· ∈ desk.users.usersOf client) addressed := by
  obtain ⟨addressed, found, perm⟩ := UserDirectory.queues_of_users mirrored inhabited
  refine ⟨addressed, found, perm.length_eq.trans ?_, perm.nodup_iff.mpr ?_, fun queue => ?_⟩
  · rw [List.filterMap_length_eq_length]
    intro key user
    rw [UserDirectory.queue_isSome, (UserDirectory.mem_users.mp user).1]
  · refine (UserDirectory.users_nodup desk.users client).filterMap ?_
    intro first second queue one other
    have owns : desk.queueOf? (.user first) = some queue := one
    cases owned.sole owns (show desk.queueOf? (.user second) = some queue from other)
    rfl
  · simp only [perm.mem_iff, List.mem_filterMap, UserDirectory.queue_of_iff]

end RelayTree
