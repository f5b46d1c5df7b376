/-
What a chain in memory answers after it has been set up.

Whatever can be set up is an aspect of the chain (`Aspect`): a setting either says something about
it, and then this is what counts, or leaves it as it was. By induction on the settings an aspect is
what was said about it last (`Aspect.get_ofSettings`). So settings of other things can be left out
or put in, and two settings of different things can change places, without any read taking notice.

Reads leave everything as it is but for the number of storage reads, which counts those that were
begun (`readAll_eq`).
-/
import Rollup.Chain.Memory

set_option autoImplicit false

namespace Rollup.Chain.Memory

/-! ## Settings -/

/-- What a chain is told before it is read. -/
inductive Setting where
  | gasPrice (price : BitVec 128)
  | nonce (account : Address) (count : UInt64)
  | storage (account : Address) (slot value : Word)
  | latency (account : Address) (delay : Duration)
  | failure (account : Address) (kind : StorageFailure)

/-- The thing that a setting is about. -/
inductive Subject where
  | gasPrice
  | nonce (account : Address)
  | storage (account : Address) (slot : Word)
  | latency (account : Address)
  | failure (account : Address)
  deriving DecidableEq

def Setting.subject : Setting → Subject
  | .gasPrice _ => .gasPrice
  | .nonce account _ => .nonce account
  | .storage account slot _ => .storage account slot
  | .latency account _ => .latency account
  | .failure account _ => .failure account

/-- Sets one thing. -/
def apply (m : Memory) : Setting → Memory
  | .gasPrice price => m.setGasPrice price
  | .nonce account count => m.setNonce account count
  | .storage account slot value => m.setStorage account slot value
  | .latency account delay => m.setLatency account delay
  | .failure account kind => m.setFailure account kind

/-- The chain that has been told so much. -/
def ofSettings (chainId : UInt64) (settings : List Setting) : Memory :=
  settings.foldl apply (ofChainId chainId)

/-! ## What settings say -/

namespace Setting

def price? : Setting → Option (BitVec 128)
  | .gasPrice price => some price
  | _ => none

def nonce? (a : Address) : Setting → Option UInt64
  | .nonce account count => if a = account then some count else none
  | _ => none

def word? (a : Address) (s : Word) : Setting → Option Word
  | .storage account slot value => if (a, s) = (account, slot) then some value else none
  | _ => none

def latency? (a : Address) : Setting → Option Duration
  | .latency account delay => if a = account then some delay else none
  | _ => none

def failure? (a : Address) : Setting → Option StorageFailure
  | .failure account kind => if a = account then some kind else none
  | _ => none

end Setting

section

variable {β : Type} (say : Setting → Option β)

/-- What is said last. -/
def last? (settings : List Setting) : Option β := (settings.filterMap say).getLast?

/-- A setting counts if no later one says something. -/
theorem last?_cons (s : Setting) (settings : List Setting) :
    last? say (s :: settings) = (last? say settings).or (say s) := by
  rw [last?, last?]
  cases h : say s with
  | none => rw [List.filterMap_cons_none h, Option.or_none]
  | some value =>
    rw [List.filterMap_cons_some h, List.getLast?_cons]
    cases (settings.filterMap say).getLast? <;> rfl

variable {say} {s t : Setting}

/-- It does not matter whether a setting is there that says nothing. -/
theorem last?_insert (hs : say s = none) (before after : List Setting) :
    last? say (before ++ s :: after) = last? say (before ++ after) := by
  rw [last?, last?, List.filterMap_append, List.filterMap_append, List.filterMap_cons_none hs]

/-- Two settings can change places if one of them says nothing. -/
theorem last?_swap (h : say s = none ∨ say t = none) (before after : List Setting) :
    last? say (before ++ s :: t :: after) = last? say (before ++ t :: s :: after) := by
  rcases h with hs | ht
  · have hleft := last?_insert hs before (t :: after)
    have hright := last?_insert hs (before ++ [t]) after
    rw [List.append_assoc, List.append_assoc] at hright
    exact hleft.trans hright.symm
  · have hleft := last?_insert ht (before ++ [s]) after
    have hright := last?_insert ht before (s :: after)
    rw [List.append_assoc, List.append_assoc] at hleft
    exact hleft.trans hright.symm

end

/-! ## Aspects -/

/-- Something that can be set up, under a subject of its own. -/
structure Aspect (β : Type) where
  get : Memory → Option β
  say : Setting → Option β
  subject : Subject
  /-- A setting that says something about it counts, and any other one leaves it. -/
  step : ∀ m s, get (m.apply s) = (say s).or (get m)
  /-- Settings under other subjects say nothing about it. -/
  silent : ∀ s, s.subject ≠ subject → say s = none

namespace Aspect

variable {β : Type} (A : Aspect β)

/-- What was said last counts, or else what the memory had before. -/
theorem get_foldl (m : Memory) (settings : List Setting) :
    A.get (settings.foldl apply m) = (last? A.say settings).or (A.get m) := by
  induction settings generalizing m with
  | nil => rfl
  | cons s settings ih => rw [List.foldl_cons, ih, A.step, last?_cons, Option.or_assoc]

/-- **An aspect is what was said about it last**, by induction on the settings. -/
theorem get_ofSettings (chainId : UInt64) (settings : List Setting) :
    A.get (ofSettings chainId settings) = (last? A.say settings).or (A.get (ofChainId chainId)) :=
  A.get_foldl _ settings

/-- A setting of another subject makes no difference. -/
theorem get_insert {s : Setting} (hs : s.subject ≠ A.subject) (chainId : UInt64)
    (before after : List Setting) :
    A.get (ofSettings chainId (before ++ s :: after)) =
      A.get (ofSettings chainId (before ++ after)) := by
  rw [get_ofSettings, get_ofSettings, last?_insert (A.silent s hs)]

/-- Neither does the order of settings of different subjects. -/
theorem get_swap {s t : Setting} (h : s.subject ≠ t.subject) (chainId : UInt64)
    (before after : List Setting) :
    A.get (ofSettings chainId (before ++ s :: t :: after)) =
      A.get (ofSettings chainId (before ++ t :: s :: after)) := by
  have hsilent : A.say s = none ∨ A.say t = none := by
    by_cases hs : s.subject = A.subject
    · exact .inr (A.silent t fun ht => h (hs.trans ht.symm))
    · exact .inl (A.silent s hs)
  rw [get_ofSettings, get_ofSettings, last?_swap hsilent]

end Aspect

/-- A lookup behind one more entry. -/
theorem lookup_cons_eq_or {α β : Type} [BEq α] [LawfulBEq α] [DecidableEq α] (a b : α) (value : β)
    (entries : List (α × β)) :
    ((b, value) :: entries).lookup a = (if a = b then some value else none).or (entries.lookup a) := by
  by_cases h : a = b
  · rw [h, List.lookup_cons_self, if_pos rfl, Option.some_or]
  · rw [List.lookup_cons, beq_false_of_ne h, if_neg h, Option.none_or]

def priceAspect : Aspect (BitVec 128) where
  get m := some m.gasPrice
  say := Setting.price?
  subject := .gasPrice
  step m s := by cases s <;> rfl
  silent s h := by
    cases s with
    | gasPrice price => exact absurd rfl h
    | _ => rfl

def nonceAspect (a : Address) : Aspect UInt64 where
  get m := m.nonces.lookup a
  say := Setting.nonce? a
  subject := .nonce a
  step m s := by
    cases s with
    | nonce account count => exact lookup_cons_eq_or _ _ _ _
    | _ => rfl
  silent s h := by
    cases s with
    | nonce account count => exact if_neg fun ha => h (congrArg Subject.nonce ha.symm)
    | _ => rfl

def wordAspect (a : Address) (slot : Word) : Aspect Word where
  get m := m.storage.lookup (a, slot)
  say := Setting.word? a slot
  subject := .storage a slot
  step m s := by
    cases s with
    | storage account place value => exact lookup_cons_eq_or _ _ _ _
    | _ => rfl
  silent s h := by
    cases s with
    | storage account place value =>
      refine if_neg fun heq => h ?_
      obtain ⟨rfl, rfl⟩ := Prod.mk.inj heq
      rfl
    | _ => rfl

def latencyAspect (a : Address) : Aspect Duration where
  get m := m.latencies.lookup a
  say := Setting.latency? a
  subject := .latency a
  step m s := by
    cases s with
    | latency account delay => exact lookup_cons_eq_or _ _ _ _
    | _ => rfl
  silent s h := by
    cases s with
    | latency account delay => exact if_neg fun ha => h (congrArg Subject.latency ha.symm)
    | _ => rfl

def failureAspect (a : Address) : Aspect StorageFailure where
  get m := m.failures.lookup a
  say := Setting.failure? a
  subject := .failure a
  step m s := by
    cases s with
    | failure account kind => exact lookup_cons_eq_or _ _ _ _
    | _ => rfl
  silent s h := by
    cases s with
    | failure account kind => exact if_neg fun ha => h (congrArg Subject.failure ha.symm)
    | _ => rfl

/-! ## Reads -/

/-- What can be read. -/
inductive Query where
  | chainId
  | gasPrice
  | nonce (account : Address)
  | storage (account : Address) (slot : Word)

def Query.isStorage : Query → Bool
  | .storage _ _ => true
  | _ => false

/-- What a read comes to; for a slot also how long it takes. -/
inductive Reading where
  | chainId (id : UInt64)
  | gasPrice (price : BitVec 128)
  | nonce (count : UInt64)
  | storage (run : Run Word)

/-- Begins a read. -/
def read (m : Memory) : Query → Reading × Memory
  | .chainId => (.chainId m.chainId, m)
  | .gasPrice => (.gasPrice m.gasPrice, m)
  | .nonce account => (.nonce (m.nonce account), m)
  | .storage account slot =>
    let (run, m) := m.readStorage account slot
    (.storage run, m)

/-- Begins reads one after the other. -/
def readAll (m : Memory) : List Query → List Reading × Memory
  | [] => ([], m)
  | q :: queries =>
    let (reading, m) := m.read q
    let (readings, m) := m.readAll queries
    (reading :: readings, m)

/-- A read changes the number of storage reads at most. -/
theorem read_snd (m : Memory) (q : Query) :
    (m.read q).2 = { m with reads := m.reads + [q].countP Query.isStorage } := by
  cases q <;> rfl

/-- No answer depends on the count. -/
theorem read_fst_of_reads (m : Memory) (n : Nat) (q : Query) :
    ({ m with reads := n }.read q).1 = (m.read q).1 := by
  cases q <;> rfl

/-- **No read has an effect on another one**, and the storage reads are counted. -/
theorem readAll_eq (m : Memory) (queries : List Query) :
    m.readAll queries = (queries.map fun q => (m.read q).1,
      { m with reads := m.reads + queries.countP Query.isStorage }) := by
  induction queries generalizing m with
  | nil => rfl
  | cons q queries ih =>
    have hcount : (q :: queries).countP Query.isStorage =
        [q].countP Query.isStorage + queries.countP Query.isStorage := by
      rw [← List.countP_append, List.singleton_append]
    simp only [readAll, ih, read_snd, read_fst_of_reads, hcount, List.map_cons, Nat.add_assoc]

/-! ## Reads of a chain that was set up -/

/-- Settings leave the chain and the count alone. -/
theorem ofSettings_kept (chainId : UInt64) (settings : List Setting) :
    (ofSettings chainId settings).chainId = chainId ∧ (ofSettings chainId settings).reads = 0 := by
  have hstep : ∀ (m : Memory) s, (m.apply s).chainId = m.chainId ∧ (m.apply s).reads = m.reads := by
    intro m s
    cases s <;> exact ⟨rfl, rfl⟩
  have hrun : ∀ m : Memory, (settings.foldl apply m).chainId = m.chainId ∧
      (settings.foldl apply m).reads = m.reads := by
    induction settings with
    | nil => exact fun m => ⟨rfl, rfl⟩
    | cons s settings ih =>
      intro m
      have h := ih (m.apply s)
      rwa [(hstep m s).1, (hstep m s).2] at h
  exact hrun _

/-- What is read of a chain that was told so much. A slot is the last word that was written into it,
unless reads of the account have been made to fail. -/
def told (chainId : UInt64) (settings : List Setting) : Query → Reading
  | .chainId => .chainId chainId
  | .gasPrice => .gasPrice ((last? Setting.price? settings).getD 0)
  | .nonce account => .nonce ((last? (Setting.nonce? account) settings).getD 0)
  | .storage account slot =>
    let answer := match last? (Setting.failure? account) settings with
      | some kind => .error (kind.error account)
      | none => .ok ((last? (Setting.word? account slot) settings).getD 0)
    let delay := last? (Setting.latency? account) settings
    .storage ⟨answer, [0], (delay.map fun d => Wait.span d.nanos).toList⟩

/-- A nonce is the one that was set last, or zero. -/
theorem nonce_ofSettings (chainId : UInt64) (settings : List Setting) (a : Address) :
    (ofSettings chainId settings).nonce a = (last? (Setting.nonce? a) settings).getD 0 := by
  have h : (ofSettings chainId settings).nonces.lookup a = (last? (Setting.nonce? a) settings).or none :=
    (nonceAspect a).get_ofSettings chainId settings
  rw [nonce, h, Option.or_none]

/-- A read of the storage is what the settings tell. -/
theorem storageRun_ofSettings (chainId : UInt64) (settings : List Setting) (a : Address)
    (slot : Word) :
    .storage ((ofSettings chainId settings).storageRun a slot) =
      told chainId settings (.storage a slot) := by
  -- Three aspects of the node decide, each by the last setting of its own.
  have hfailure : (ofSettings chainId settings).failures.lookup a =
      (last? (Setting.failure? a) settings).or none :=
    (failureAspect a).get_ofSettings chainId settings
  have hword : (ofSettings chainId settings).storage.lookup (a, slot) =
      (last? (Setting.word? a slot) settings).or none :=
    (wordAspect a slot).get_ofSettings chainId settings
  have hlatency : (ofSettings chainId settings).latencies.lookup a =
      (last? (Setting.latency? a) settings).or none :=
    (latencyAspect a).get_ofSettings chainId settings
  rw [Option.or_none] at hfailure hword hlatency
  rw [storageRun, storageAnswer, waits, word, hfailure, hword, hlatency]
  rfl

/-- Every answer is what the settings tell. -/
theorem read_ofSettings (chainId : UInt64) (settings : List Setting) (q : Query) :
    ((ofSettings chainId settings).read q).1 = told chainId settings q := by
  cases q with
  | chainId => exact congrArg Reading.chainId (ofSettings_kept chainId settings).1
  | gasPrice =>
    have h : some (ofSettings chainId settings).gasPrice =
        (last? Setting.price? settings).or (some 0) := priceAspect.get_ofSettings chainId settings
    refine congrArg Reading.gasPrice (Option.some.inj (h.trans ?_))
    cases last? Setting.price? settings <;> rfl
  | nonce account => exact congrArg Reading.nonce (nonce_ofSettings chainId settings account)
  | storage account slot => exact storageRun_ofSettings chainId settings account slot

/-! ## Chains that are alike -/

/-- Two chains hold the same, whatever was told of it before. -/
structure Alike (m n : Memory) : Prop where
  chainId : m.chainId = n.chainId
  gasPrice : m.gasPrice = n.gasPrice
  nonces : ∀ a, m.nonces.lookup a = n.nonces.lookup a
  storage : ∀ a slot, m.storage.lookup (a, slot) = n.storage.lookup (a, slot)
  latencies : ∀ a, m.latencies.lookup a = n.latencies.lookup a
  failures : ∀ a, m.failures.lookup a = n.failures.lookup a
  reads : m.reads = n.reads

/-- No read tells them apart. -/
theorem Alike.read_eq {m n : Memory} (h : Alike m n) (q : Query) : (m.read q).1 = (n.read q).1 := by
  cases q with
  | chainId => exact congrArg Reading.chainId h.chainId
  | gasPrice => exact congrArg Reading.gasPrice h.gasPrice
  | nonce account =>
    refine congrArg Reading.nonce ?_
    rw [nonce, nonce, h.nonces]
  | storage account slot =>
    have hrun : m.storageRun account slot = n.storageRun account slot := by
      rw [storageRun, storageRun, storageAnswer, storageAnswer, word, word, waits, waits, h.failures,
        h.storage, h.latencies]
    exact congrArg Reading.storage hrun

/-- Memories that are alike give the same answers. -/
theorem Alike.readAll_eq {m n : Memory} (h : Alike m n) (queries : List Query) :
    (m.readAll queries).1 = (n.readAll queries).1 := by
  rw [Memory.readAll_eq, Memory.readAll_eq]
  exact List.map_congr_left fun q _ => h.read_eq q

/-- **Settings of different things can change places.** -/
theorem alike_swap {s t : Setting} (h : s.subject ≠ t.subject) (chainId : UInt64)
    (before after : List Setting) :
    Alike (ofSettings chainId (before ++ s :: t :: after))
      (ofSettings chainId (before ++ t :: s :: after)) where
  chainId := by rw [(ofSettings_kept ..).1, (ofSettings_kept ..).1]
  gasPrice := Option.some.inj (priceAspect.get_swap h chainId before after)
  nonces a := (nonceAspect a).get_swap h chainId before after
  storage a slot := (wordAspect a slot).get_swap h chainId before after
  latencies a := (latencyAspect a).get_swap h chainId before after
  failures a := (failureAspect a).get_swap h chainId before after
  reads := by rw [(ofSettings_kept ..).2, (ofSettings_kept ..).2]

/-- **A chain in memory answers as it was set up.** Every read comes to what the settings say last,
whatever was read before, and the storage reads that were begun are counted. A setting leaves the
answers about a slot alone unless it is about this slot or about failures of the account, and the
number of transactions of an account unless it is about that. Settings of different things can
change places. -/
theorem ofSettings_exact (chainId : UInt64) (settings : List Setting) (queries : List Query) :
    ((ofSettings chainId settings).readAll queries).1 = queries.map (told chainId settings) ∧
    ((ofSettings chainId settings).readAll queries).2.reads = queries.countP Query.isStorage ∧
    (∀ (kind : StorageFailure) a, (kind.error a).isTransient = true ↔ kind = .transient) ∧
    (∀ before s after a slot, s.subject ≠ .failure a → s.subject ≠ .storage a slot →
      ((ofSettings chainId (before ++ s :: after)).readStorage a slot).1.answer =
        ((ofSettings chainId (before ++ after)).readStorage a slot).1.answer) ∧
    (∀ before s after a, s.subject ≠ .nonce a →
      (ofSettings chainId (before ++ s :: after)).nonce a =
        (ofSettings chainId (before ++ after)).nonce a) ∧
    ∀ before s t after, s.subject ≠ t.subject →
      Alike (ofSettings chainId (before ++ s :: t :: after))
        (ofSettings chainId (before ++ t :: s :: after)) ∧
      ((ofSettings chainId (before ++ s :: t :: after)).readAll queries).1 =
        ((ofSettings chainId (before ++ t :: s :: after)).readAll queries).1 := by
  refine ⟨?_, ?_, ?_, ?_, ?_, ?_⟩
  · rw [readAll_eq]
    exact List.map_congr_left fun q _ => read_ofSettings chainId settings q
  · rw [readAll_eq, (ofSettings_kept chainId settings).2, Nat.zero_add]
  · intro kind a
    cases kind
    · exact iff_of_true rfl rfl
    · exact iff_of_false nofun nofun
  · -- The answer depends on the failure that is set and on the word, and on nothing else.
    intro before s after a slot hfailure hstorage
    have hf := (failureAspect a).get_insert hfailure chainId before after
    have hw := (wordAspect a slot).get_insert hstorage chainId before after
    dsimp only [failureAspect, wordAspect] at hf hw
    rw [readStorage, readStorage, storageRun, storageRun, storageAnswer, storageAnswer, word, word, hf,
      hw]
  · intro before s after a hnonce
    have hn := (nonceAspect a).get_insert hnonce chainId before after
    dsimp only [nonceAspect] at hn
    rw [nonce, nonce, hn]
  · intro before s t after h
    have halike := alike_swap h chainId before after
    exact ⟨halike, halike.readAll_eq queries⟩

/-- A slot that is written twice, with a delay and another account's failure told in between. -/
theorem ofSettings_exact_twice :
    ((ofSettings 10 [.storage (.ofNat 1) 7 5, .latency (.ofNat 1) (.ofMillis 3),
      .failure (.ofNat 2) .transient, .storage (.ofNat 1) 7 6]).readStorage (.ofNat 1) 7).1.answer =
        .ok 6 ∧
    Alike (ofSettings 10 [.storage (.ofNat 1) 7 5, .storage (.ofNat 1) 8 6])
      (ofSettings 10 [.storage (.ofNat 1) 8 6, .storage (.ofNat 1) 7 5]) := by
  obtain ⟨-, -, -, hanswer, -, hswap⟩ := ofSettings_exact 10 [] []
  refine ⟨?_, (hswap [] (.storage (.ofNat 1) 7 5) (.storage (.ofNat 1) 8 6) [] (by decide)).1⟩
  -- Without the delay and without the failure the last word that was written is read.
  refine (hanswer [.storage (.ofNat 1) 7 5] (.latency (.ofNat 1) (.ofMillis 3))
    [.failure (.ofNat 2) .transient, .storage (.ofNat 1) 7 6] (.ofNat 1) 7 nofun nofun).trans ?_
  exact hanswer [.storage (.ofNat 1) 7 5] (.failure (.ofNat 2) .transient) [.storage (.ofNat 1) 7 6]
    (.ofNat 1) 7 (by decide) nofun

end Rollup.Chain.Memory
