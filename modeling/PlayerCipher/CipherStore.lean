import PlayerCipher.Cipher

/-! Remembered ciphers.
A store holds ciphers under script versions, the newest first. It holds at most `capacity` of
them: a new one pushes out the oldest, and with capacity zero nothing stays. -/

namespace PlayerCipher

structure CipherStore where
  capacity : Nat
  entries : List (ScriptVersion × Cipher)

namespace CipherStore

def defaultCapacity : Nat := 64

def empty (capacity : Nat) : CipherStore := ⟨capacity, []⟩

def get? (store : CipherStore) (version : ScriptVersion) : Option Cipher :=
  (store.entries.find? fun entry => entry.1 == version).map (·.2)

def without (version : ScriptVersion) (entries : List (ScriptVersion × Cipher)) :
    List (ScriptVersion × Cipher) :=
  entries.filter fun entry => entry.1 != version

def put (store : CipherStore) (version : ScriptVersion) (cipher : Cipher) : CipherStore :=
  { store with
    entries := ((version, cipher) :: without version store.entries).take store.capacity }

def insert (store : CipherStore) (cipher : Cipher) : CipherStore :=
  store.put cipher.version cipher

def erase (store : CipherStore) (version : ScriptVersion) : CipherStore :=
  { store with entries := without version store.entries }

def clear (store : CipherStore) : CipherStore :=
  { store with entries := [] }

theorem get?_empty (capacity : Nat) (version : ScriptVersion) :
    (empty capacity).get? version = none := rfl

theorem get?_clear (store : CipherStore) (version : ScriptVersion) :
    store.clear.get? version = none := rfl

theorem find?_without_self (version : ScriptVersion) (entries : List (ScriptVersion × Cipher)) :
    (without version entries).find? (fun entry => entry.1 == version) = none := by
  simp [without]

theorem find?_without_of_ne {version other : ScriptVersion}
    (entries : List (ScriptVersion × Cipher)) (differ : other ≠ version) :
    (without version entries).find? (fun entry => entry.1 == other) =
      entries.find? (fun entry => entry.1 == other) := by
  induction entries with
  | nil => rfl
  | cons entry entries ih =>
    by_cases own : entry.1 = version
    · have passed : entry.1 ≠ other := fun same => differ (same ▸ own)
      simpa [without, own, passed, differ.symm] using ih
    · by_cases found : entry.1 = other
      · simp [without, found, differ]
      · simpa [without, own, found] using ih

theorem get?_erase_self (store : CipherStore) (version : ScriptVersion) :
    (store.erase version).get? version = none := by
  simp only [get?, erase, find?_without_self, Option.map_none]

theorem get?_erase_of_ne {store : CipherStore} {version other : ScriptVersion}
    (differ : other ≠ version) : (store.erase version).get? other = store.get? other := by
  simp only [get?, erase, find?_without_of_ne store.entries differ]

end CipherStore

end PlayerCipher
