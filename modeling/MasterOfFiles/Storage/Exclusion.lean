import MasterOfFiles.Lib.GuardedRuns
import MasterOfFiles.Storage.Cuentas

/-!
One thread at a time in the section of a File:Tag. eliminar_file_tag unlocks its mutex and then
removes it, so a thread that has the pointer by then goes on with a destroyed mutex while the
next one makes another for the same key. Without such a removal the sections exclude.
-/
namespace StorageExclusion
open StorageCerrojos StorageDisciplina StorageCuentas

variable {Id : Type} {s s' : Sistema Id} {i j : Id} {k clave : String} {n : Nat}
  {x : Cerrojo} {p : Puntero} {resto : List Accion} {malloc : Sistema Id → Nat}
  {antes : Rango → Rango → Prop}

def EnSeccion (s : Sistema Id) (i : Id) (f : Nombres) : Prop :=
  ∃ n, s.claves n = some f.clave ∧ Tiene s i (.archivo n)

/-- No two threads in one section, and nobody at a mutex that was destroyed. -/
structure ExclusionMutua (s : Sistema Id) : Prop where
  uno : ∀ f i j, EnSeccion s i f → EnSeccion s j f → i = j
  sanos : ∀ i n, Pide s i (.archivo n) → s.destruidos n = false

def Hilo.Usa (h : Hilo) (n : Nat) : Prop := h.punteros .a = some n ∨ h.punteros .b = some n

instance (h : Hilo) (n : Nat) : Decidable (Hilo.Usa h n) :=
  inferInstanceAs (Decidable (_ ∨ _))

def claveQuitada : List Accion → Option String
  | .quitar clave :: _ => some clave
  | _ => none

/-- If the step is a removal, nobody else has a pointer to the mutex that it destroys. -/
def QuitaLibre (s : Sistema Id) (i : Id) : Prop :=
  ∀ n ∈ (claveQuitada (s.hilos i).restantes).bind s.dict, ∀ j, j ≠ i →
    ¬ Hilo.Usa (s.hilos j) n

instance {m : Nat} (s : Sistema (Fin m)) (i : Fin m) : Decidable (QuitaLibre s i) :=
  inferInstanceAs (Decidable (∀ n ∈ (claveQuitada (s.hilos i).restantes).bind s.dict, _))

theorem usa_of_puntero {h : Hilo} (hp : h.punteros p = some n) : Hilo.Usa h n := by
  cases p with
  | a => exact .inl hp
  | b => exact .inr hp

theorem dict_of_tiene (live : Vivos s) (accounts : Cuadran antes s)
    (owned : Tiene s i (.archivo n)) : ∃ k, s.claves n = some k ∧ s.dict k = some n := by
  obtain ⟨c, hc⟩ := accounts.cuentas i
  obtain ⟨x, _, hx⟩ := (hc.tomados _).mp owned
  cases x with
  | archivo p =>
    obtain ⟨m, hm, same⟩ := Option.map_eq_some_iff.mp hx
    cases same
    obtain ⟨k, there⟩ := live.punteros i p n hm
    exact ⟨k, accounts.dict k n there, there⟩
  | _ => cases hx

theorem exclusion_of_vivos (live : Vivos s) (accounts : Cuadran antes s) :
    ExclusionMutua s := by
  constructor
  · intro f i j first second
    obtain ⟨n, hn, owned⟩ := first
    obtain ⟨n', hn', owned'⟩ := second
    obtain ⟨k, hk, there⟩ := dict_of_tiene live accounts owned
    obtain ⟨k', hk', there'⟩ := dict_of_tiene live accounts owned'
    cases hk.symm.trans hn
    cases hk'.symm.trans hn'
    have same : n = n' := Option.some.inj (there.symm.trans there')
    subst same
    exact Option.some.inj (owned.symm.trans owned')
  · intro i n asked
    obtain ⟨x, resto, _, hx⟩ := asked
    cases x with
    | archivo p =>
      obtain ⟨m, hm, same⟩ := Option.map_eq_some_iff.mp hx
      cases same
      obtain ⟨k, there⟩ := live.punteros i p n hm
      exact (live.dict k n there).2
    | _ => cases hx

variable [DecidableEq Id]

theorem punteros_seguir (s : Sistema Id) (i j : Id) (h : Hilo) (resto : List Accion)
    (fewer : ∀ p n, h.punteros p = some n → (s.hilos i).punteros p = some n)
    (hp : ((s.seguir i h resto).hilos j).punteros p = some n) :
    (s.hilos j).punteros p = some n := by
  by_cases same : j = i
  · subst same
    rw [hilos_seguir_propio] at hp
    exact fewer p n hp
  · rwa [hilos_seguir_otro s h resto same] at hp

theorem vivos_seguir (live : Vivos s) {h : Hilo}
    (fewer : ∀ p n, h.punteros p = some n → (s.hilos i).punteros p = some n) :
    Vivos (s.seguir i h resto) :=
  ⟨fun j p n hp => live.punteros j p n (punteros_seguir s i j h resto fewer hp), live.dict⟩

theorem soltar_fewer (h : Hilo) (x : Cerrojo) (p : Puntero) (n : Nat)
    (hp : (h.soltar x).punteros p = some n) : h.punteros p = some n := by
  cases x with
  | archivo q =>
    by_cases same : p = q
    · simp [Hilo.soltar, same] at hp
    · simpa [Hilo.soltar, same] using hp
  | _ => exact hp

theorem vivos_lock (live : Vivos s) : Vivos (s.lock i x resto) := by
  unfold Sistema.lock
  split
  · exact live
  · split
    · have next : Vivos (s.seguir i (s.hilos i) resto) := vivos_seguir live fun _ _ hp => hp
      exact ⟨next.punteros, next.dict⟩
    · exact live

theorem vivos_unlock (live : Vivos s) : Vivos (s.unlock i x resto) := by
  unfold Sistema.unlock
  split
  · exact live
  · have next : Vivos (s.seguir i ((s.hilos i).soltar x) resto) :=
      vivos_seguir live (soltar_fewer (s.hilos i) x)
    exact ⟨next.punteros, next.dict⟩

theorem punteros_apuntar (s : Sistema Id) (i j : Id) {q : Puntero} {m : Nat}
    (hp : ((s.seguir i ((s.hilos i).apuntar p m) resto).hilos j).punteros q = some n) :
    n = m ∨ (s.hilos j).punteros q = some n := by
  by_cases same : j = i
  · subst same
    rw [hilos_seguir_propio] at hp
    by_cases hq : q = p
    · exact .inl (by simpa [Hilo.apuntar, hq, eq_comm] using hp)
    · exact .inr (by simpa [Hilo.apuntar, hq] using hp)
  · rw [hilos_seguir_otro s _ resto same] at hp
    exact .inr hp

theorem vivos_obtener (live : Vivos s) : Vivos (s.obtener malloc i p clave resto) := by
  unfold Sistema.obtener
  split
  · rename_i m hm
    refine ⟨fun j q n hp => ?_, live.dict⟩
    rcases punteros_apuntar s i j hp with rfl | old
    · exact ⟨clave, hm⟩
    · exact live.punteros j q n old
  · rename_i absent
    refine ⟨fun j q n hp => ?_, fun k n there => ?_⟩
    · rcases punteros_apuntar (s.crearMutex clave _) i j hp with rfl | old
      · exact ⟨clave, by simp [Sistema.crearMutex, Sistema.seguir]⟩
      · obtain ⟨k, there⟩ := live.punteros j q n old
        have apart : k ≠ clave := by
          intro same
          rw [same, absent] at there
          contradiction
        exact ⟨k, by simp [Sistema.crearMutex, Sistema.seguir, apart, there]⟩
    · by_cases same : n = s.direccion malloc
      · subst same
        simp [Sistema.crearMutex, Sistema.seguir]
      · have apart : k ≠ clave := by
          intro e
          simp [Sistema.crearMutex, Sistema.seguir, e, Ne.symm same] at there
        simp only [Sistema.crearMutex, Sistema.seguir, Function.update_of_ne apart] at there
        obtain ⟨used, sound⟩ := live.dict k n there
        refine ⟨lt_of_lt_of_le used (le_max_left _ _), ?_⟩
        simpa [Sistema.crearMutex, Sistema.seguir, same] using sound

theorem vivos_quitar (live : Vivos s) (valid : DictValido s)
    (unused : ∀ n, s.dict clave = some n → ∀ j p, (s.hilos j).punteros p ≠ some n) :
    Vivos (s.quitar i clave resto) := by
  unfold Sistema.quitar
  split
  · exact vivos_seguir live fun _ _ hp => hp
  · rename_i m hm
    refine ⟨fun j q n hp => ?_, fun k n there => ?_⟩
    · have old := punteros_seguir s i j _ resto (fun _ _ h => h) hp
      obtain ⟨k, there⟩ := live.punteros j q n old
      have apart : k ≠ clave := by
        intro same
        exact unused n (same ▸ there) j q old
      exact ⟨k, by simp [apart, there]⟩
    · have apart : k ≠ clave := by
        intro same
        simp [same] at there
      have other : s.dict k = some n := by simpa [apart] using there
      have ne : n ≠ m := by
        intro same
        subst same
        exact apart (Option.some.inj ((valid k n other).symm.trans (valid clave n hm)))
      obtain ⟨used, sound⟩ := live.dict k n other
      exact ⟨used, by simpa [ne] using sound⟩

omit [DecidableEq Id] in
theorem sin_punteros {c : Cuenta} (h : Cuadra antes s i c)
    (next : (s.hilos i).restantes = .quitar clave :: resto) (p : Puntero) (n : Nat) :
    (s.hilos i).punteros p ≠ some n := by
  intro hp
  have text := h.disciplina
  rw [next] at text
  have none := text.1 p
  obtain ⟨k, hk⟩ := h.punteros p n hp
  rw [h.claves p, hp, Option.bind_some, hk] at none
  contradiction

theorem vivos_avanzar (live : Vivos s) (accounts : Cuadran antes s)
    (free : QuitaLibre s i) : Vivos (avanzar malloc s i) := by
  unfold avanzar
  split
  · exact live
  · exact vivos_lock live
  · exact vivos_unlock live
  · exact vivos_obtener live
  · rename_i clave resto next
    apply vivos_quitar live accounts.dict
    intro n hn j p hp
    by_cases same : j = i
    · subst same
      obtain ⟨c, hc⟩ := accounts.cuentas j
      exact sin_punteros hc next p n hp
    · refine free n ?_ j same (usa_of_puntero hp)
      simp [next, claveQuitada, hn]

omit [DecidableEq Id] in
theorem vivos_inicial (solicitudes : Id → List Solicitud) : Vivos (inicial solicitudes) := by
  constructor
  · intro j p n hp
    simp [inicial] at hp
  · intro k n there
    simp [inicial] at there

theorem corrida_vivos (solicitudes : Id → List Solicitud)
    (order : Cuadran antes (inicial solicitudes)) {turnos parte : List Id}
    (free : GuardedRuns.Along (avanzar malloc) QuitaLibre (inicial solicitudes) turnos)
    (part : parte <+: turnos) :
    Vivos (parte.foldl (avanzar malloc) (inicial solicitudes)) ∧
      Cuadran antes (parte.foldl (avanzar malloc) (inicial solicitudes)) :=
  GuardedRuns.invariant_on_prefixes (fun s : Sistema Id => Vivos s ∧ Cuadran antes s)
    (fun _ i h guard => ⟨vivos_avanzar h.1 h.2 guard, cuadran_avanzar h.2 h.1 i⟩)
    ⟨vivos_inicial solicitudes, order⟩ free parte part

/-- In such a run the sections of every File:Tag exclude each other and nobody locks a destroyed
    mutex, whatever addresses malloc gives. -/
theorem exclusion_mutua (malloc : Sistema Id → Nat) (solicitudes : Id → List Solicitud)
    (turnos : List Id)
    (free : GuardedRuns.Along (avanzar malloc) QuitaLibre (inicial solicitudes) turnos)
    (parte : List Id) (part : parte <+: turnos) :
    ExclusionMutua (parte.foldl (avanzar malloc) (inicial solicitudes)) := by
  have order : ∀ i, ∀ r ∈ solicitudes i, TagEnOrden (fun _ _ => True) r := by
    intro i r _
    cases r with
    | tagFile origen destino => exact fun _ => trivial
    | _ => trivial
  obtain ⟨live, accounts⟩ :=
    corrida_vivos solicitudes (cuadran_inicial (fun _ _ _ => trivial) solicitudes order) free part
  exact exclusion_of_vivos live accounts

/-- Thread 0 deletes A:1, thread 1 reads it and thread 2 creates it again. -/
def deleteReadCreate : Fin 3 → List Solicitud
  | 0 => [.eliminarFileTag ⟨"A", "1"⟩ 0 true]
  | 1 => [.leerBloque ⟨"A", "1"⟩]
  | 2 => [.crearFile ⟨"A", "1"⟩]

/-- The DELETE waits for the mutex until the READ unlocks it, and removes it. The CREATE gets a
    mutex at the same address. -/
def turnosConEspera : List (Fin 3) :=
  [1, 1, 1, 1, 0, 0, 0, 0, 1, 0, 0, 0, 0, 2, 0, 2, 2, 2, 2]

/-- While the DELETE waits, and at the end. -/
theorem exclusion_mutua_con_espera :
    let s := (turnosConEspera.take 8).foldl (avanzar fun _ => 0) (inicial deleteReadCreate)
    (EnSeccion s 1 ⟨"A", "1"⟩ ∧ Pide s 0 (.archivo 0) ∧ ExclusionMutua s) ∧
      ExclusionMutua (turnosConEspera.foldl (avanzar fun _ => 0) (inicial deleteReadCreate)) := by
  have free : GuardedRuns.Along (avanzar fun _ => 0) QuitaLibre (inicial deleteReadCreate)
      turnosConEspera := by decide
  exact ⟨⟨⟨0, rfl, rfl⟩, ⟨.archivo .a, _, rfl, rfl⟩,
    exclusion_mutua _ deleteReadCreate turnosConEspera free _ (List.take_prefix 8 _)⟩,
    exclusion_mutua _ deleteReadCreate turnosConEspera free _ List.prefix_rfl⟩

/-- Thread 1 still reads A:1 when thread 0, which deleted it, removes the mutex, and thread 2
    gets a new one. -/
theorem dos_en_la_seccion :
    ¬ ∀ (malloc : Sistema (Fin 3) → Nat) (solicitudes : Fin 3 → List Solicitud)
        (turnos : List (Fin 3)),
      ExclusionMutua (turnos.foldl (avanzar malloc) (inicial solicitudes)) := by
  intro all
  have exclusive := all (fun _ => 1) deleteReadCreate
    [0, 0, 0, 0, 0, 1, 1, 1, 1, 0, 0, 0, 2, 2, 2, 2]
  have same := exclusive.uno ⟨"A", "1"⟩ 1 2 ⟨0, rfl, rfl⟩ ⟨1, rfl, rfl⟩
  contradiction

end StorageExclusion
