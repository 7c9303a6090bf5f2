import Mathlib.Data.List.DropRight
import Mathlib.Data.List.Induction
import RichChat.Model.Store

/-!
# What a store has been through

Several parties share a store. However their operations are interleaved, they take effect one after
the other, so the store has been through a list of them, and this list tells all that can be seen of
it (`Store.toldBy_runAll`): a lookup gives the last insertion of its key, every request is counted,
and the requests that are made while somebody takes them are handed over in their order, each as
often as it was made.

The inserted entities are read off the tables of the store (`tables_runAll`). What has been handed
over is followed from the right end of the list, since an operation adds to what is waiting, hands
it over or loses it (`listens_runAll`, `taken_runAll`).
-/

namespace RichChat

theorem lookup_cons {κ α : Type} [DecidableEq κ] (key k : κ) (x : α) (entries : List (κ × α)) :
    lookup key ((k, x) :: entries) = if k = key then some x else lookup key entries := by
  by_cases h : k = key <;> simp [lookup, h]

/-- The last thing in a list that has a key. -/
def lastOf {κ α : Type} [DecidableEq κ] (keyOf : α → κ) (key : κ) (xs : List α) : Option α :=
  (xs.filter fun x => keyOf x = key).getLast?

/-- In a list with the latest entry first, a lookup finds the last thing that was put in. -/
theorem lookup_reverse {κ α β : Type} [DecidableEq κ] (keyOf : α → κ) (value : α → β) (key : κ)
    (xs : List α) :
    lookup key (xs.map fun x => (keyOf x, value x)).reverse = (lastOf keyOf key xs).map value := by
  induction xs using List.reverseRecOn with
  | nil => rfl
  | append_singleton xs x ih =>
    rw [List.map_append, List.reverse_append, lastOf, List.filter_append]
    by_cases h : keyOf x = key
    · simp [lookup_cons, h]
    · rw [List.map_singleton, List.reverse_singleton, List.singleton_append, lookup_cons, if_neg h,
        ih]
      simp [lastOf, h]

/-- An operation on a store. -/
inductive StoreOp
  | insertUser (user : User)
  | insertMember (guild : GuildId) (member : Member)
  | insertRole (guild : GuildId) (role : Role)
  | insertChannel (channel : Channel)
  | request (request : FetchRequest)
  | drain
  | dropReceiver
  deriving DecidableEq

namespace StoreOp

/-- Carries out an operation, and gives the requests that it hands over. -/
def run (store : Store) : StoreOp → List FetchRequest × Store
  | insertUser user => ([], store.insertUser user)
  | insertMember guild member => ([], store.insertMember guild member)
  | insertRole guild role => ([], store.insertRole guild role)
  | insertChannel channel => ([], store.insertChannel channel)
  | request r => ([], store.request r)
  | drain => store.drain
  | dropReceiver => ([], store.dropReceiver)

/-- What operations hand over, one after the other, and the store after them. -/
def runAll (store : Store) : List StoreOp → List FetchRequest × Store
  | [] => ([], store)
  | op :: ops =>
    let (taken, store) := op.run store
    let (more, store) := runAll store ops
    (taken ++ more, store)

theorem runAll_append (store : Store) (xs ys : List StoreOp) :
    runAll store (xs ++ ys)
      = ((runAll store xs).1 ++ (runAll (runAll store xs).2 ys).1,
        (runAll (runAll store xs).2 ys).2) := by
  induction xs generalizing store with
  | nil => rfl
  | cons op xs ih => simp [runAll, ih]

theorem runAll_concat (store : Store) (ops : List StoreOp) (op : StoreOp) :
    runAll store (ops ++ [op])
      = ((runAll store ops).1 ++ (op.run (runAll store ops).2).1,
        (op.run (runAll store ops).2).2) := by
  simp [runAll_append, runAll]

/-- The user that becomes known, on its own or as a member. -/
def user? : StoreOp → Option User
  | insertUser user => some user
  | insertMember _ member => some member.user
  | _ => none

def member? : StoreOp → Option (GuildId × Member)
  | insertMember guild member => some (guild, member)
  | _ => none

def role? : StoreOp → Option (GuildId × Role)
  | insertRole guild role => some (guild, role)
  | _ => none

def channel? : StoreOp → Option Channel
  | insertChannel channel => some channel
  | _ => none

def request? : StoreOp → Option FetchRequest
  | request r => some r
  | _ => none

/-- The requests that are made in a list of operations. -/
def requests (ops : List StoreOp) : List FetchRequest := ops.filterMap request?

/-- The operations while there is somebody who takes the requests: all of them up to the first that
drops the receiver, or none if there never was one. -/
def heard (listening : Bool) (ops : List StoreOp) : List StoreOp :=
  if listening then ops.takeWhile (· ≠ dropReceiver) else []

/-- The operations after the last time that requests were taken. -/
def sinceDrain (ops : List StoreOp) : List StoreOp := ops.rtakeWhile (· ≠ drain)

theorem sinceDrain_drain (ops : List StoreOp) : sinceDrain (ops ++ [drain]) = [] := by
  simp [sinceDrain]

theorem sinceDrain_concat (ops : List StoreOp) {op : StoreOp} (h : op ≠ drain) :
    sinceDrain (ops ++ [op]) = sinceDrain ops ++ [op] := by
  simp [sinceDrain, h]

theorem requests_concat (ops : List StoreOp) (op : StoreOp) :
    requests (ops ++ [op]) = requests ops ++ op.request?.toList := by
  cases h : op.request? <;> simp [requests, h]

end StoreOp

namespace Store

open StoreOp (runAll runAll_append runAll_concat requests heard sinceDrain)

/-- The tables of a store list what has been inserted, the latest insertion first. -/
structure Tables (ops : List StoreOp) (store : Store) : Prop where
  users : store.users = ((ops.filterMap (·.user?)).map fun u => (u.id, u)).reverse
  members : store.members
    = ((ops.filterMap (·.member?)).map fun m => ((m.1, m.2.user.id), m.2)).reverse
  roles : store.roles = ((ops.filterMap (·.role?)).map fun r => ((r.1, r.2.id), r.2)).reverse
  channels : store.channels = ((ops.filterMap (·.channel?)).map fun ch => (ch.id, ch)).reverse
  requestCount : store.requestCount = (requests ops).length

theorem Tables.step {ops : List StoreOp} {store : Store} (h : Tables ops store) (op : StoreOp) :
    Tables (ops ++ [op]) (op.run store).2 := by
  obtain ⟨users, members, roles, channels, count⟩ := h
  cases op <;> constructor <;>
    simp [StoreOp.run, insertUser, insertMember, insertRole, insertChannel, request, drain,
      dropReceiver, StoreOp.user?, StoreOp.member?, StoreOp.role?, StoreOp.channel?,
      StoreOp.request?, requests, users, members, roles, channels, count]

theorem tables_runAll (listening : Bool) (ops : List StoreOp) :
    Tables ops (runAll { listening } ops).2 := by
  induction ops using List.reverseRecOn with
  | nil => exact ⟨rfl, rfl, rfl, rfl, rfl⟩
  | append_singleton ops op ih =>
    rw [runAll_concat]
    exact ih.step op

/-- While somebody takes the requests, those that have not been taken wait. -/
structure Listens (ops : List StoreOp) (taken : List FetchRequest) (store : Store) : Prop where
  listening : store.listening = true
  waiting : store.waiting = requests (sinceDrain ops)
  taken : taken ++ requests (sinceDrain ops) = requests ops

theorem Listens.step {ops : List StoreOp} {taken : List FetchRequest} {store : Store}
    (h : Listens ops taken store) {op : StoreOp} (hop : op ≠ .dropReceiver) :
    Listens (ops ++ [op]) (taken ++ (op.run store).1) (op.run store).2 := by
  by_cases hdrain : op = .drain
  · subst hdrain
    refine ⟨h.listening, ?_, ?_⟩
    · rw [StoreOp.sinceDrain_drain]
      rfl
    · rw [StoreOp.sinceDrain_drain, StoreOp.requests_concat]
      simpa [StoreOp.run, Store.drain, StoreOp.request?, requests, h.waiting] using h.taken
  · have hkept : (op.run store).2.listening = store.listening ∧
        (op.run store).2.waiting = store.waiting ++ op.request?.toList ∧
        (op.run store).1 = [] := by
      cases op with
      | drain => exact absurd rfl hdrain
      | dropReceiver => exact absurd rfl hop
      | request r => simp [StoreOp.run, request, StoreOp.request?, h.listening]
      | _ => simp [StoreOp.run, insertUser, insertMember, insertRole, insertChannel,
          StoreOp.request?]
    refine ⟨hkept.1.trans h.listening, ?_, ?_⟩
    · rw [hkept.2.1, h.waiting, StoreOp.sinceDrain_concat _ hdrain, StoreOp.requests_concat]
    · rw [hkept.2.2, StoreOp.sinceDrain_concat _ hdrain, StoreOp.requests_concat,
        StoreOp.requests_concat, List.append_nil, ← List.append_assoc, h.taken]

theorem listens_runAll {ops : List StoreOp} (h : ∀ op ∈ ops, op ≠ .dropReceiver) :
    Listens ops (runAll {} ops).1 (runAll {} ops).2 := by
  induction ops using List.reverseRecOn with
  | nil => exact ⟨rfl, rfl, rfl⟩
  | append_singleton ops op ih =>
    rw [List.forall_mem_append, List.forall_mem_singleton] at h
    rw [runAll_concat]
    exact (ih h.1).step h.2

/-- Where nobody takes requests, nothing is handed over any more. -/
theorem runAll_of_deaf {store : Store} (ops : List StoreOp) (hl : store.listening = false)
    (hw : store.waiting = []) : (runAll store ops).1 = [] := by
  induction ops generalizing store with
  | nil => rfl
  | cons op ops ih =>
    have hkept : (op.run store).1 = [] ∧ (op.run store).2.listening = false ∧
        (op.run store).2.waiting = [] := by
      cases op <;> simp [StoreOp.run, insertUser, insertMember, insertRole, insertChannel, request,
        drain, dropReceiver, hl, hw]
    simp [runAll, hkept.1, ih hkept.2.1 hkept.2.2]

/-- Of the requests that somebody heard, all but those after the last time have been taken. -/
theorem taken_runAll (listening : Bool) (ops : List StoreOp) :
    (runAll { listening } ops).1 ++ requests (sinceDrain (heard listening ops))
      = requests (heard listening ops) := by
  cases listening with
  | false => rw [runAll_of_deaf ops rfl rfl]; rfl
  | true =>
    have hheard : ∀ op ∈ heard true ops, op ≠ .dropReceiver := by
      intro op hop
      rw [heard, if_pos rfl] at hop
      simpa using List.mem_takeWhile_imp hop
    have hrest : (runAll (runAll {} (heard true ops)).2 (ops.dropWhile (· ≠ .dropReceiver))).1
        = [] := by
      cases hdrop : ops.dropWhile (· ≠ .dropReceiver) with
      | nil => rfl
      | cons op rest =>
        have hop := List.head?_dropWhile_not (fun op => decide (op ≠ StoreOp.dropReceiver)) ops
        rw [hdrop] at hop
        obtain rfl : op = .dropReceiver := by simpa using hop
        exact runAll_of_deaf rest rfl rfl
    have hall : (runAll {} ops).1 = (runAll {} (heard true ops)).1 := by
      have hsplit : heard true ops ++ ops.dropWhile (· ≠ .dropReceiver) = ops :=
        List.takeWhile_append_dropWhile
      calc (runAll {} ops).1
          = (runAll {} (heard true ops ++ ops.dropWhile (· ≠ .dropReceiver))).1 := by rw [hsplit]
        _ = (runAll {} (heard true ops)).1 := by rw [runAll_append, hrest, List.append_nil]
    rw [hall]
    exact (listens_runAll hheard).taken

/-- What can be seen of a store after some operations, from the start with or without a receiver. -/
structure ToldBy (listening : Bool) (ops : List StoreOp) (taken : List FetchRequest)
    (store : Store) : Prop where
  user : ∀ id, store.user id = lastOf User.id id (ops.filterMap (·.user?))
  member : ∀ guild id, store.member guild id
    = (lastOf (fun m => (m.1, m.2.user.id)) (guild, id) (ops.filterMap (·.member?))).map (·.2)
  role : ∀ guild id, store.role guild id
    = (lastOf (fun r => (r.1, r.2.id)) (guild, id) (ops.filterMap (·.role?))).map (·.2)
  channel : ∀ id, store.channel id = lastOf Channel.id id (ops.filterMap (·.channel?))
  requestCount : store.requestCount = (requests ops).length
  /-- Only what was asked for after the last time that requests were taken is not among those. -/
  taken : taken ++ requests (sinceDrain (heard listening ops)) = requests (heard listening ops)

/-- Lookups give the last insertion of their key, all requests are counted, and those that somebody
heard are handed over in their order, each once. -/
theorem toldBy_runAll (listening : Bool) (ops : List StoreOp) :
    ToldBy listening ops (runAll { listening } ops).1 (runAll { listening } ops).2 := by
  obtain ⟨users, members, roles, channels, count⟩ := tables_runAll listening ops
  refine ⟨fun id => ?_, fun guild id => ?_, fun guild id => ?_, fun id => ?_, count,
    taken_runAll listening ops⟩
  · rw [Store.user, users, lookup_reverse, Option.map_id']
  · rw [Store.member, members, lookup_reverse]
  · rw [Store.role, roles, lookup_reverse]
  · rw [Store.channel, channels, lookup_reverse, Option.map_id']

end Store

end RichChat
