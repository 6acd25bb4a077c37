import ChatProject.Status.StatusService

/-! Which chat server a client is sent to. -/

namespace ChatProof

open ChatModel ChatModel.StatusService

/-- The count that Redis has for a server, which is zero for a server that it does not know. -/
def loginCount (result : OrderedMap String Int64) (name : String) : Int64 := (result.find? name).getD 0

section Listed

variable {chatServers : List ChatServerConfig} {result : OrderedMap String Int64}

/-- Each entry of the map stands for a listed server of that name, with its count. -/
def Represents (chatServers : List ChatServerConfig) (count : String → Int64)
    (counts : OrderedMap String (Nat × Int64)) : Prop :=
  ∀ name i value, counts.find? name = some (i, value) →
    (∃ server, chatServers[i]? = some server ∧ server.name = name) ∧ value = count name

theorem listed_represents (chatServers : List ChatServerConfig) (pairs : List (ChatServerConfig × Nat))
    (inside : ∀ config i, (config, i) ∈ pairs → chatServers[i]? = some config) (counts : OrderedMap String (Nat × Int64))
    (represents : Represents chatServers (fun _ => 0) counts) :
    Represents chatServers (fun _ => 0)
      (pairs.foldl (fun counts (config, i) => counts.assign config.name (i, 0)) counts) := by
  induction pairs generalizing counts with
  | nil => exact represents
  | cons head rest ih =>
    obtain ⟨config, position⟩ := head
    apply ih fun config i member => inside config i (List.mem_cons_of_mem _ member)
    intro name i value found
    rw [OrderedMap.find?_assign] at found
    by_cases here : config.name = name
    · simp only [here, if_true, Option.some.injEq, Prod.mk.injEq] at found
      obtain ⟨rfl, rfl⟩ := found
      exact ⟨⟨config, inside config _ List.mem_cons_self, here⟩, rfl⟩
    · rw [if_neg here] at found
      exact represents name i value found

/-- Later servers do not remove a name from the map. -/
theorem listed_found (pairs : List (ChatServerConfig × Nat)) (counts : OrderedMap String (Nat × Int64)) (name : String)
    (known : (counts.find? name).isSome = true ∨ ∃ pair ∈ pairs, pair.1.name = name) :
    ((pairs.foldl (fun counts (config, i) => counts.assign config.name (i, 0)) counts).find? name).isSome = true := by
  induction pairs generalizing counts with
  | nil => simpa using known
  | cons head rest ih =>
    apply ih
    rw [OrderedMap.find?_assign]
    by_cases here : head.1.name = name
    · simp [here]
    · rw [if_neg here]
      rcases known with before | ⟨pair, member, same⟩
      · exact .inl before
      · rcases List.mem_cons.mp member with rfl | inside
        · exact absurd same here
        · exact .inr ⟨pair, inside, same⟩

/-- Only the counts of the names that are there change, each to the one that is read for it. -/
theorem find?_counted (entries : List (String × Int64)) (distinct : (entries.map (·.1)).Nodup)
    (counts : OrderedMap String (Nat × Int64)) (name : String) :
    (entries.foldl (fun counts (key, value) => counts.modify key fun (i, _) => (i, value)) counts).find? name =
      (counts.find? name).map fun old => (old.1, (OrderedMap.lookup name entries).getD old.2) := by
  induction entries generalizing counts with
  | nil => simp [OrderedMap.lookup]
  | cons head rest ih =>
    obtain ⟨key, value⟩ := head
    obtain ⟨fresh, tail⟩ := List.nodup_cons.mp distinct
    rw [List.foldl_cons, ih tail, OrderedMap.find?_modify, OrderedMap.lookup_cons]
    by_cases here : key = name
    · subst here
      have absent : OrderedMap.lookup key rest = none := by
        have missing : rest.find? (·.1 = key) = none := by
          apply List.find?_eq_none.mpr
          intro entry member
          have apart : entry.1 ≠ key := by
            intro same
            exact fresh (List.mem_map.mpr ⟨entry, member, same⟩)
          simp [apart]
        rw [OrderedMap.lookup, missing]
        rfl
      cases counts.find? key <;> simp [absent]
    · simp [here]

theorem serverLoginCount_represents (chatServers : List ChatServerConfig) (result : OrderedMap String Int64) :
    Represents chatServers (loginCount result) (serverLoginCount chatServers result) := by
  have listed := listed_represents chatServers chatServers.zipIdx
    (fun config i member => List.mk_mem_zipIdx_iff_getElem?.mp member) .empty (by intro name i value found; cases found)
  intro name i value found
  unfold serverLoginCount at found
  rw [find?_counted _ result.nodup_keys] at found
  obtain ⟨old, before, same⟩ := Option.map_eq_some_iff.mp found
  obtain ⟨rfl, rfl⟩ := Prod.mk.inj same
  obtain ⟨server, zero⟩ := listed name old.1 old.2 before
  exact ⟨server, by rw [zero]; rfl⟩

theorem serverLoginCount_found {server : ChatServerConfig} (member : server ∈ chatServers) (result : OrderedMap String Int64) :
    ∃ i, (serverLoginCount chatServers result).find? server.name = some (i, loginCount result server.name) := by
  obtain ⟨i, bound, at_i⟩ := List.getElem_of_mem member
  have pair : (server, i) ∈ chatServers.zipIdx :=
    List.mk_mem_zipIdx_iff_getElem?.mpr (at_i ▸ List.getElem?_eq_getElem bound)
  have listed := listed_found chatServers.zipIdx .empty server.name (.inr ⟨_, pair, rfl⟩)
  have there : ((serverLoginCount chatServers result).find? server.name).isSome = true := by
    unfold serverLoginCount
    rw [find?_counted _ result.nodup_keys, Option.isSome_map]
    exact listed
  obtain ⟨⟨position, value⟩, found⟩ := Option.isSome_iff_exists.mp there
  have counted := (serverLoginCount_represents chatServers result server.name position value found).2
  exact ⟨position, counted ▸ found⟩

end Listed

/-- The loop ends with what it started from, or with an entry of the list, and with nothing that is less. -/
theorem leastLoaded_spec (counts : List (String × Nat × Int64)) (best : Int32 × Int64) :
    (leastLoaded counts best).2 ≤ best.2 ∧ (∀ entry ∈ counts, (leastLoaded counts best).2 ≤ entry.2.2) ∧
      (leastLoaded counts best = best ∨
        ∃ entry ∈ counts, leastLoaded counts best = (Int32.ofNat entry.2.1, entry.2.2)) := by
  induction counts generalizing best with
  | nil => exact ⟨Int64.le_refl _, by simp, .inl rfl⟩
  | cons head rest ih =>
    let next : Int32 × Int64 := if head.2.2 < best.2 then (Int32.ofNat head.2.1, head.2.2) else best
    have step : leastLoaded (head :: rest) best = leastLoaded rest next := rfl
    obtain ⟨below, least, reached⟩ := ih next
    rw [step]
    have sinks : next.2 ≤ best.2 ∧ next.2 ≤ head.2.2 ∧
        (next = best ∨ next = (Int32.ofNat head.2.1, head.2.2)) := by
      by_cases less : head.2.2 < best.2
      · have here : next = (Int32.ofNat head.2.1, head.2.2) := if_pos less
        rw [here]
        exact ⟨Int64.le_of_lt less, Int64.le_refl _, .inr rfl⟩
      · have here : next = best := if_neg less
        rw [here]
        exact ⟨Int64.le_refl _, Int64.not_lt.mp less, .inl rfl⟩
    refine ⟨Int64.le_trans below sinks.1, ?_, ?_⟩
    · intro entry member
      rcases List.mem_cons.mp member with rfl | inside
      · exact Int64.le_trans below sinks.2.1
      · exact least entry inside
    · rcases reached with same | ⟨entry, inside, same⟩
      · rw [same]
        rcases sinks.2.2 with old | new
        · exact .inl old
        · exact .inr ⟨head, List.mem_cons_self, new⟩
      · exact .inr ⟨entry, List.mem_cons_of_mem _ inside, same⟩

/-- The position is in the list, and no server has fewer logins than the one there. -/
def IsLeast (chatServers : List ChatServerConfig) (result : OrderedMap String Int64) (i : Nat) : Prop :=
  ∃ server, chatServers[i]? = some server ∧
    ∀ other ∈ chatServers, loginCount result server.name ≤ loginCount result other.name

theorem getServerIndex_position (chatServers : List ChatServerConfig) (some_server : chatServers ≠ [])
    (result : OrderedMap String Int64) :
    ∃ i, getServerIndex chatServers result = Int32.ofNat i ∧ IsLeast chatServers result i := by
  obtain ⟨first, rest, rfl⟩ := List.exists_cons_of_ne_nil some_server
  by_cases blank : result.entries = []
  · -- nobody has a count
    have nobody : ∀ name, loginCount result name = 0 := by
      intro name
      simp [loginCount, OrderedMap.find?, blank, OrderedMap.lookup]
    refine ⟨0, ?_, first, rfl, ?_⟩
    · simp [getServerIndex, blank]
    · intro other _
      rw [nobody, nobody]
      exact Int64.le_refl _
  · let counts := serverLoginCount (first :: rest) result
    obtain ⟨_, least, reached⟩ := leastLoaded_spec counts.entries (0, Int64.maxValue)
    have index : getServerIndex (first :: rest) result = (leastLoaded counts.entries (0, Int64.maxValue)).1 := by
      simp [getServerIndex, blank, counts]
    have below : ∀ server ∈ first :: rest,
        (leastLoaded counts.entries (0, Int64.maxValue)).2 ≤ loginCount result server.name := by
      intro server member
      obtain ⟨i, found⟩ := serverLoginCount_found member result
      exact least _ (OrderedMap.mem_entries.mpr found)
    rcases reached with same | ⟨⟨name, i, value⟩, member, same⟩
    · -- no count is below the greatest number, so that all of them are this number
      rw [same] at below index
      refine ⟨0, index, first, rfl, ?_⟩
      intro other inside
      exact Int64.le_trans (Int64.le_maxValue _) (below other inside)
    · rw [same] at below index
      obtain ⟨⟨server, position, rfl⟩, rfl⟩ :=
        serverLoginCount_represents (first :: rest) result name i value (OrderedMap.mem_entries.mp member)
      exact ⟨i, index, server, position, below⟩

/-- The index denotes such a position. -/
def Selects (chatServers : List ChatServerConfig) (result : OrderedMap String Int64) (index : Int32) : Prop :=
  ∃ i : Nat, index.toInt = i ∧ IsLeast chatServers result i

theorem IsLeast.bound {chatServers : List ChatServerConfig} {result : OrderedMap String Int64} {i : Nat}
    (least : IsLeast chatServers result i) : i < chatServers.length := by
  obtain ⟨server, found, _⟩ := least
  exact (List.getElem?_eq_some_iff.mp found).1

theorem getServerIndex_small {chatServers : List ChatServerConfig} (some_server : chatServers ≠ [])
    (size : chatServers.length ≤ 2 ^ 31) (result : OrderedMap String Int64) :
    Selects chatServers result (getServerIndex chatServers result) := by
  obtain ⟨i, index, least⟩ := getServerIndex_position chatServers some_server result
  have bound := least.bound
  have value := Int32.toInt_ofNat_of_lt (show i < 2 ^ 31 by omega)
  exact ⟨i, index ▸ value, least⟩

theorem getServerIndex_selects (chatServers : List ChatServerConfig) (some_server : chatServers ≠ [])
    (result : OrderedMap String Int64) :
    (∃ i, getServerIndex chatServers result = Int32.ofNat i ∧ IsLeast chatServers result i) ∧
      (chatServers.length ≤ 2 ^ 31 → Selects chatServers result (getServerIndex chatServers result)) :=
  ⟨getServerIndex_position chatServers some_server result, fun size => getServerIndex_small some_server size result⟩

def chatServer1 : ChatServerConfig := { name := "chat_server1", host := "127.0.0.1", port := 18080 }
def chatServer2 : ChatServerConfig := { name := "chat_server2", host := "127.0.0.1", port := 18081 }

theorem getServerIndex_selects_second : Selects [chatServer1, chatServer2] (.ofList [("chat_server1", 3)])
    (getServerIndex [chatServer1, chatServer2] (.ofList [("chat_server1", 3)])) :=
  (getServerIndex_selects [chatServer1, chatServer2] (by decide) (.ofList [("chat_server1", 3)])).2 (by decide)

/-- As many servers of one name as an `int` can count, and one more, which has the fewest logins. -/
def manyServers : List ChatServerConfig := List.replicate (2 ^ 31) chatServer1 ++ [chatServer2]

theorem getServerIndex_manyServers : ¬ Selects manyServers (.ofList [("chat_server2", -1)])
    (getServerIndex manyServers (.ofList [("chat_server2", -1)])) := by
  obtain ⟨i, index, least⟩ :=
    getServerIndex_position manyServers (List.append_ne_nil_of_right_ne_nil _ (by simp)) (.ofList [("chat_server2", -1)])
  have last : i = 2 ^ 31 := by
    have bound := least.bound
    obtain ⟨server, found, below⟩ := least
    rw [manyServers, List.length_append, List.length_replicate, List.length_singleton] at bound
    by_contra early
    have front : i < 2 ^ 31 := by omega
    rw [manyServers, List.getElem?_append_left (by rw [List.length_replicate]; exact front), List.getElem?_replicate,
      if_pos front] at found
    cases found
    have less := below chatServer2 (List.mem_append_right _ List.mem_cons_self)
    exact absurd less (by decide)
  rintro ⟨position, same, _⟩
  rw [index, last] at same
  have negative : (Int32.ofNat (2 ^ 31)).toInt = -(2 ^ 31) := by decide
  omega

/-- Where the answer can be stored, the client is sent to a server with the fewest logins. -/
theorem getChatServer_least {chatServers : List ChatServerConfig} (some_server : chatServers ≠ [])
    (size : chatServers.length ≤ 2 ^ 31) (uuid : String) (request : GetChatServerRequest) (counting : Outcome)
    (redis : Redis) : ∃ server ∈ chatServers,
      (getChatServer chatServers uuid request counting .ok redis).1 =
        some { host := server.host, port := server.port, token := uuid } ∧
      ∀ other ∈ chatServers, loginCount (.ofList (RedisClient.hgetall loginCountKey counting redis).1) server.name ≤
        loginCount (.ofList (RedisClient.hgetall loginCountKey counting redis).1) other.name := by
  let result := OrderedMap.ofList (RedisClient.hgetall loginCountKey counting redis).1
  obtain ⟨i, value, least⟩ := getServerIndex_small some_server size result
  obtain ⟨server, found, below⟩ := least
  have chosen : serverAt chatServers (getServerIndex chatServers result) = some server := by
    have positive : 0 ≤ getServerIndex chatServers result := by
      rw [Int32.le_iff_toInt_le, value]
      exact Int.natCast_nonneg i
    rw [serverAt, if_pos positive, value, Int.toNat_natCast, found]
  refine ⟨server, List.mem_of_getElem? found, ?_, below⟩
  change Option.map _ (serverAt chatServers (getServerIndex chatServers result)) = _
  rw [chosen]
  rfl

end ChatProof
