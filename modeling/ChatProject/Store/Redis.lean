import ChatProject.Message.Ids

namespace ChatModel

/-- How a call to a store ends: done and answered, refused before it did anything, or done
    with the answer lost on the way back. -/
inductive Outcome where
  | ok
  | error
  | lost
deriving DecidableEq, Repr

/-- The answer and the state of a call that is done as `done` when it is done. -/
def Outcome.settle {α σ : Type} (outcome : Outcome) (done : α × σ) (failed : α) (state : σ) : α × σ :=
  match outcome with
  | .ok => done
  | .error => (failed, state)
  | .lost => (failed, done.2)

inductive RedisValue where
  | string (value : String)
  | hash (fields : List (String × Int64))

structure RedisEntry where
  value : RedisValue
  expireAt : Option Nat := none

structure Redis where
  now : Nat := 0
  entries : String → Option RedisEntry := fun _ => none

namespace Redis

def lookup (key : String) (redis : Redis) : Option RedisValue :=
  match redis.entries key with
  | some ⟨value, some time⟩ => if redis.now < time then some value else none
  | some ⟨value, none⟩ => some value
  | none => none

def put (key : String) (entry : RedisEntry) (redis : Redis) : Redis :=
  { redis with entries := fun other => if other = key then some entry else redis.entries other }

/-- `GET`, which is an error on a hash. -/
def get (key : String) (redis : Redis) : Option String :=
  match redis.lookup key with
  | some (.string value) => some value
  | _ => none

/-- `SET`, on a key of any type, which ends its time to live. -/
def set (key value : String) (redis : Redis) : Redis := redis.put key ⟨.string value, none⟩

def setex (key : String) (ttl : Nat) (value : String) (redis : Redis) : Redis :=
  redis.put key ⟨.string value, some (redis.now + ttl)⟩

def setField (field : String) (value : Int64) : List (String × Int64) → List (String × Int64)
  | [] => [(field, value)]
  | (other, old) :: rest =>
    if field = other then (field, value) :: rest else (other, old) :: setField field value rest

/-- `HSET` of one field, which is an error on a string; the answer is the number of new fields. -/
def hset (key field : String) (value : Int64) (redis : Redis) : Option (Int × Redis) :=
  match redis.lookup key with
  | some (.string _) => none
  | some (.hash fields) =>
    let expireAt := (redis.entries key).bind RedisEntry.expireAt
    let added := if fields.any (·.1 = field) then 0 else 1
    some (added, redis.put key ⟨.hash (setField field value fields), expireAt⟩)
  | none => some (1, redis.put key ⟨.hash [(field, value)], none⟩)

def hgetall (key : String) (redis : Redis) : List (String × Int64) :=
  match redis.lookup key with
  | some (.hash fields) => fields
  | _ => []

def tick (seconds : Nat) (redis : Redis) : Redis := { redis with now := redis.now + seconds }

@[simp] theorem get_put_other {key other : String} (different : other ≠ key) (entry : RedisEntry)
    (redis : Redis) : (redis.put key entry).get other = redis.get other := by
  have same : (redis.put key entry).entries other = redis.entries other := if_neg different
  have found : (redis.put key entry).lookup other = redis.lookup other := by
    unfold lookup
    rw [same]
    rfl
  rw [get, found, get]

@[simp] theorem get_set (key value : String) (redis : Redis) : (redis.set key value).get key = some value := by
  simp [get, lookup, set, put]

@[simp] theorem get_set_other {key other : String} (different : other ≠ key) (value : String)
    (redis : Redis) : (redis.set key value).get other = redis.get other := get_put_other different _ redis

@[simp] theorem get_setex (key value : String) {ttl : Nat} (positive : 0 < ttl) (redis : Redis) :
    (redis.setex key ttl value).get key = some value := by
  simp [get, lookup, setex, put, positive]

@[simp] theorem get_setex_other {key other : String} (different : other ≠ key) (ttl : Nat) (value : String)
    (redis : Redis) : (redis.setex key ttl value).get other = redis.get other := get_put_other different _ redis

theorem get_hset_other {key other field : String} {value : Int64} {redis after : Redis} {added : Int}
    (different : other ≠ key) (done : redis.hset key field value = some (added, after)) :
    after.get other = redis.get other := by
  unfold hset at done
  split at done
  · cases done
  · cases done
    exact get_put_other different _ redis
  · cases done
    exact get_put_other different _ redis

theorem entries_setex_other {key other : String} (different : other ≠ key) (ttl : Nat) (value : String) (redis : Redis) :
    (redis.setex key ttl value).entries other = redis.entries other := if_neg different

theorem get_of_entry {key value : String} {time : Nat} {redis : Redis}
    (entry : redis.entries key = some ⟨.string value, some time⟩) (alive : redis.now < time) : redis.get key = some value := by
  simp [get, lookup, entry, alive]

theorem entry_of_get {key value : String} {redis : Redis} (found : redis.get key = some value) :
    ∃ expireAt, redis.entries key = some ⟨.string value, expireAt⟩ := by
  unfold get lookup at found
  split at found
  · rename_i held there
    split at there
    · rename_i value time entry
      split at there <;> cases there
      cases found
      exact ⟨_, entry⟩
    · rename_i value entry
      cases there
      cases found
      exact ⟨_, entry⟩
    · cases there
  · cases found

end Redis

/-! ## `RedisClient`: a call that fails, in whatever way, answers the same as a miss -/

namespace RedisClient

def get (key : String) (outcome : Outcome) (redis : Redis) : Option String × Redis :=
  outcome.settle (redis.get key, redis) none redis

def set (key value : String) (outcome : Outcome) (redis : Redis) : Bool × Redis :=
  outcome.settle (true, redis.set key value) false redis

def setExpired (key value : String) (ttl : Nat) (outcome : Outcome) (redis : Redis) : Bool × Redis :=
  outcome.settle (true, redis.setex key ttl value) false redis

def hset (key field : String) (value : Int64) (outcome : Outcome) (redis : Redis) : Int × Redis :=
  outcome.settle ((redis.hset key field value).getD (-1, redis)) (-1) redis

def hgetall (key : String) (outcome : Outcome) (redis : Redis) : List (String × Int64) × Redis :=
  outcome.settle (redis.hgetall key, redis) [] redis

@[simp] theorem get_redis (key : String) (outcome : Outcome) (redis : Redis) :
    (get key outcome redis).2 = redis := by
  cases outcome <;> rfl

@[simp] theorem hgetall_redis (key : String) (outcome : Outcome) (redis : Redis) :
    (hgetall key outcome redis).2 = redis := by
  cases outcome <;> rfl

theorem hset_get_other {key other : String} (different : other ≠ key) (field : String) (value : Int64)
    (outcome : Outcome) (redis : Redis) :
    (hset key field value outcome redis).2.get other = redis.get other := by
  have done : ((redis.hset key field value).getD (-1, redis)).2.get other = redis.get other := by
    cases written : redis.hset key field value with
    | none => rfl
    | some pair => exact Redis.get_hset_other different written
  cases outcome with
  | ok => exact done
  | error => rfl
  | lost => exact done

end RedisClient

end ChatModel
