import MasterOfFiles.Storage.Disciplina

/-!
The account that the text of a thread gives of its mutexes, and the mutexes: they agree after
every step of any thread, as long as every pointer that a thread keeps goes to a mutex that the
dictionary still has. A mutex that malloc puts where a destroyed one was is then nobody else's.
-/
namespace StorageCuentas
open StorageCerrojos StorageDisciplina

variable {Id : Type} {antes : Rango → Rango → Prop} {s s' : Sistema Id}
  {i j : Id} {c : Cuenta} {x : Cerrojo} {p : Puntero} {m : Mutex} {clave : String}
  {resto : List Accion} {malloc : Sistema Id → Nat}

/-- Thread i goes on as the account c says, and holds just what it says. -/
structure Cuadra (antes : Rango → Rango → Prop) (s : Sistema Id) (i : Id) (c : Cuenta) :
    Prop where
  disciplina : Disciplinada antes c (s.hilos i).restantes
  claves : ∀ p, c.claves p = ((s.hilos i).punteros p).bind s.claves
  punteros : ∀ p n, (s.hilos i).punteros p = some n → ∃ k, s.claves n = some k
  tomados : ∀ m, s.duenio m = some i ↔ ∃ x ∈ c.tomados, (s.hilos i).mutex x = some m
  distintos : ∀ x ∈ c.tomados, ∀ y ∈ c.tomados, ∀ m,
    (s.hilos i).mutex x = some m → (s.hilos i).mutex y = some m → x = y
  sinRepetir : c.tomados.Nodup
  apuntados : ∀ x ∈ c.tomados, c.Apunta x

def DictValido (s : Sistema Id) : Prop := ∀ k n, s.dict k = some n → s.claves n = some k

/-- Nobody points to a mutex that the dictionary does not have, and what it has was not freed. -/
structure Vivos (s : Sistema Id) : Prop where
  punteros : ∀ j p n, (s.hilos j).punteros p = some n → ∃ k, s.dict k = some n
  dict : ∀ k n, s.dict k = some n → n < s.usadas ∧ s.destruidos n = false

theorem direccion_libre (live : Vivos s) (k : String) : s.dict k ≠ some (s.direccion malloc) := by
  intro there
  obtain ⟨used, sound⟩ := live.dict k _ there
  unfold Sistema.direccion at used sound
  split at used
  · rename_i dead
    rw [if_pos dead, dead] at sound
    contradiction
  · omega

theorem sin_punteros_a_direccion (live : Vivos s) (j : Id) (p : Puntero) :
    (s.hilos j).punteros p ≠ some (s.direccion malloc) := by
  intro hp
  obtain ⟨k, there⟩ := live.punteros j p _ hp
  exact direccion_libre live k there

theorem cuadra_ajeno (h : Cuadra antes s j c) (own : s'.hilos j = s.hilos j)
    (keys : ∀ p n, (s.hilos j).punteros p = some n → s'.claves n = s.claves n)
    (held : ∀ m, s'.duenio m = some j ↔ s.duenio m = some j) : Cuadra antes s' j c := by
  refine ⟨?_, ?_, ?_, ?_, ?_, h.sinRepetir, h.apuntados⟩
  · rw [own]
    exact h.disciplina
  · intro p
    rw [own, h.claves p]
    cases hp : (s.hilos j).punteros p with
    | none => rfl
    | some n => exact (keys p n hp).symm
  · intro p n hp
    rw [own] at hp
    rw [keys p n hp]
    exact h.punteros p n hp
  · intro m
    rw [own]
    exact (held m).trans (h.tomados m)
  · rw [own]
    exact h.distintos

theorem mutex_seguir (h : Hilo) (resto : List Accion) (x : Cerrojo) :
    ({ h with restantes := resto } : Hilo).mutex x = h.mutex x := by
  cases x <;> rfl

theorem apuntar_mutex (h : Hilo) (n : Nat) {y : Cerrojo} (other : y ≠ .archivo p) :
    (h.apuntar p n).mutex y = h.mutex y := by
  cases y with
  | archivo q =>
    have apart : q ≠ p := fun same => other (by rw [same])
    simp [Hilo.apuntar, Hilo.mutex, apart]
  | _ => rfl

theorem cuadra_obtener (h : Cuadra antes s i c)
    (next : (s.hilos i).restantes = .obtener p clave :: resto) {n : Nat}
    (own : s'.hilos i = { (s.hilos i).apuntar p n with restantes := resto })
    (keys : ∀ q n, (s.hilos i).punteros q = some n → s'.claves n = s.claves n)
    (key : s'.claves n = some clave)
    (held : ∀ m, s'.duenio m = some i ↔ s.duenio m = some i) :
    Cuadra antes s' i (c.apuntar p clave) := by
  have text := h.disciplina
  rw [next] at text
  obtain ⟨unset, rest⟩ := text
  have apart : ∀ y ∈ c.tomados, y ≠ .archivo p := by
    intro y hy same
    have points := h.apuntados y hy
    rw [same, Cuenta.Apunta, unset] at points
    contradiction
  have same : ∀ y ∈ c.tomados, (s'.hilos i).mutex y = (s.hilos i).mutex y := by
    intro y hy
    rw [own, mutex_seguir, apuntar_mutex _ n (apart y hy)]
  refine ⟨?_, ?_, ?_, ?_, ?_, h.sinRepetir, ?_⟩
  · rw [own]
    exact rest
  · intro q
    rw [own]
    by_cases hq : q = p
    · subst hq
      simp [Cuenta.apuntar, Hilo.apuntar, key]
    · simp only [Cuenta.apuntar, Hilo.apuntar, Function.update_of_ne hq]
      rw [h.claves q]
      cases hp : (s.hilos i).punteros q with
      | none => rfl
      | some k => exact (keys q k hp).symm
  · intro q k hk
    rw [own] at hk
    by_cases hq : q = p
    · subst hq
      simp only [Hilo.apuntar, Function.update_self, Option.some.injEq] at hk
      subst hk
      exact ⟨clave, key⟩
    · simp only [Hilo.apuntar, Function.update_of_ne hq] at hk
      rw [keys q k hk]
      exact h.punteros q k hk
  · intro m
    rw [held m, h.tomados m]
    constructor
    · intro mine
      obtain ⟨y, hy, hm⟩ := mine
      exact ⟨y, hy, by rw [same y hy, hm]⟩
    · intro mine
      obtain ⟨y, hy, hm⟩ := mine
      exact ⟨y, hy, by rw [← same y hy, hm]⟩
  · intro y hy z hz m hym hzm
    rw [same y hy] at hym
    rw [same z hz] at hzm
    exact h.distintos y hy z hz m hym hzm
  · intro y hy
    have points := h.apuntados y hy
    have ne := apart y hy
    cases y with
    | archivo q =>
      have hq : q ≠ p := fun e => ne (by rw [e])
      simpa [Cuenta.apuntar, Cuenta.Apunta, hq] using points
    | _ => trivial

theorem cuadra_quitar (h : Cuadra antes s i c)
    (next : (s.hilos i).restantes = .quitar clave :: resto)
    (own : s'.hilos i = { s.hilos i with restantes := resto })
    (keys : s'.claves = s.claves) (held : s'.duenio = s.duenio) : Cuadra antes s' i c := by
  have text := h.disciplina
  rw [next] at text
  refine ⟨?_, ?_, ?_, ?_, ?_, h.sinRepetir, h.apuntados⟩
  · rw [own]
    exact text.2
  · rw [own, keys]
    exact h.claves
  · rw [own, keys]
    exact h.punteros
  · rw [own, held]
    simp only [mutex_seguir]
    exact h.tomados
  · rw [own]
    simp only [mutex_seguir]
    exact h.distintos

variable [DecidableEq Id]

theorem hilos_seguir_propio (s : Sistema Id) (i : Id) (h : Hilo) (resto : List Accion) :
    (s.seguir i h resto).hilos i = { h with restantes := resto } := by
  simp [Sistema.seguir]

theorem hilos_seguir_otro (s : Sistema Id) (h : Hilo) (resto : List Accion) (other : j ≠ i) :
    (s.seguir i h resto).hilos j = s.hilos j := by
  simp [Sistema.seguir, other]

theorem cuadra_lock (h : Cuadra antes s i c)
    (next : (s.hilos i).restantes = .lock x :: resto) (hm : (s.hilos i).mutex x = some m)
    (free : s.duenio m = none) :
    Cuadra antes { s.seguir i (s.hilos i) resto with
      duenio := Function.update s.duenio m (some i) } i (c.tomar x) := by
  have text := h.disciplina
  rw [next] at text
  obtain ⟨points, fresh, _, rest⟩ := text
  have apart : ∀ y ∈ c.tomados, (s.hilos i).mutex y ≠ some m := by
    intro y hy hm'
    have mine := (h.tomados m).mpr ⟨y, hy, hm'⟩
    rw [free] at mine
    contradiction
  have own := hilos_seguir_propio s i (s.hilos i) resto
  refine ⟨?_, ?_, ?_, ?_, ?_, List.nodup_cons.mpr ⟨fresh, h.sinRepetir⟩, ?_⟩
  · dsimp only
    rw [own]
    exact rest
  · dsimp only
    rw [own]
    exact h.claves
  · dsimp only
    rw [own]
    exact h.punteros
  · intro m'
    dsimp only
    rw [own]
    simp only [mutex_seguir, Cuenta.tomar, List.mem_cons]
    by_cases same : m' = m
    · subst same
      rw [Function.update_self]
      exact iff_of_true rfl ⟨x, .inl rfl, hm⟩
    · rw [Function.update_of_ne same, h.tomados m']
      constructor
      · intro held
        obtain ⟨y, hy, hm'⟩ := held
        exact ⟨y, .inr hy, hm'⟩
      · intro held
        obtain ⟨y, hy, hm'⟩ := held
        rcases hy with rfl | hy
        · exact (same (Option.some.inj (hm'.symm.trans hm))).elim
        · exact ⟨y, hy, hm'⟩
  · dsimp only
    rw [own]
    simp only [mutex_seguir, Cuenta.tomar, List.mem_cons]
    intro y hy z hz m' hym hzm
    rcases hy with rfl | hy
    · rcases hz with rfl | hz
      · rfl
      · cases hym.symm.trans hm
        exact (apart z hz hzm).elim
    · rcases hz with rfl | hz
      · cases hzm.symm.trans hm
        exact (apart y hy hym).elim
      · exact h.distintos y hy z hz m' hym hzm
  · intro y hy
    rcases List.mem_cons.mp hy with rfl | hy
    · cases y <;> exact points
    · have held := h.apuntados y hy
      cases y <;> exact held

theorem soltar_mutex (h : Hilo) {y : Cerrojo} (other : y ≠ x) :
    (h.soltar x).mutex y = h.mutex y := by
  cases x with
  | archivo p =>
    cases y with
    | archivo q =>
      have apart : q ≠ p := fun same => other (by rw [same])
      simp [Hilo.soltar, Hilo.mutex, apart]
    | _ => rfl
  | _ => rfl

theorem soltar_tomados (c : Cuenta) (x : Cerrojo) : (c.soltar x).tomados = c.tomados.erase x := by
  cases x <;> rfl

theorem soltar_apunta {y : Cerrojo} (other : y ≠ x) (h : c.Apunta y) : (c.soltar x).Apunta y := by
  cases x with
  | archivo p =>
    cases y with
    | archivo q =>
      have apart : q ≠ p := fun same => other (by rw [same])
      simpa [Cuenta.soltar, Cuenta.Apunta, apart] using h
    | _ => trivial
  | _ => cases y <;> exact h

theorem cuadra_unlock (h : Cuadra antes s i c)
    (next : (s.hilos i).restantes = .unlock x :: resto) (hm : (s.hilos i).mutex x = some m) :
    Cuadra antes { s.seguir i ((s.hilos i).soltar x) resto with
      duenio := Function.update s.duenio m none } i (c.soltar x) := by
  have text := h.disciplina
  rw [next] at text
  obtain ⟨held, rest⟩ := text
  have own := hilos_seguir_propio s i ((s.hilos i).soltar x) resto
  have mem : ∀ y, y ∈ c.tomados.erase x ↔ y ≠ x ∧ y ∈ c.tomados :=
    fun y => h.sinRepetir.mem_erase_iff
  refine ⟨?_, ?_, ?_, ?_, ?_, ?_, ?_⟩
  · dsimp only
    rw [own]
    exact rest
  · dsimp only
    rw [own]
    cases x with
    | archivo p =>
      intro q
      by_cases same : q = p
      · subst same
        simp [Cuenta.soltar, Hilo.soltar]
      · simpa [Cuenta.soltar, Hilo.soltar, Sistema.seguir, same] using h.claves q
    | _ => exact h.claves
  · dsimp only
    rw [own]
    cases x with
    | archivo p =>
      intro q n hq
      by_cases same : q = p
      · subst same
        simp [Hilo.soltar] at hq
      · exact h.punteros q n (by simpa [Hilo.soltar, same] using hq)
    | _ => exact h.punteros
  · intro m'
    dsimp only
    rw [own, soltar_tomados]
    simp only [mutex_seguir, mem]
    by_cases same : m' = m
    · subst same
      rw [Function.update_self]
      refine iff_of_false (by simp) ?_
      intro other
      obtain ⟨y, ⟨ne, hy⟩, hm'⟩ := other
      rw [soltar_mutex _ ne] at hm'
      exact ne (h.distintos y hy x held _ hm' hm)
    · rw [Function.update_of_ne same, h.tomados m']
      constructor
      · intro other
        obtain ⟨y, hy, hm'⟩ := other
        have ne : y ≠ x := by
          intro e
          rw [e, hm] at hm'
          exact same (Option.some.inj hm').symm
        exact ⟨y, ⟨ne, hy⟩, by rwa [soltar_mutex _ ne]⟩
      · intro other
        obtain ⟨y, ⟨ne, hy⟩, hm'⟩ := other
        rw [soltar_mutex _ ne] at hm'
        exact ⟨y, hy, hm'⟩
  · dsimp only
    rw [own, soltar_tomados]
    simp only [mutex_seguir, mem]
    intro y hy z hz m' hym hzm
    rw [soltar_mutex _ hy.1] at hym
    rw [soltar_mutex _ hz.1] at hzm
    exact h.distintos y hy.2 z hz.2 m' hym hzm
  · rw [soltar_tomados]
    exact h.sinRepetir.erase x
  · intro y hy
    rw [soltar_tomados, mem] at hy
    exact soltar_apunta hy.1 (h.apuntados y hy.2)

structure Cuadran (antes : Rango → Rango → Prop) (s : Sistema Id) : Prop where
  dict : DictValido s
  cuentas : ∀ i, ∃ c, Cuadra antes s i c

omit [DecidableEq Id] in
theorem tomado_mutex (h : Cuadra antes s i c) (held : x ∈ c.tomados) :
    ∃ m, (s.hilos i).mutex x = some m := by
  cases x with
  | archivo p =>
    have points := h.apuntados _ held
    obtain ⟨k, hk⟩ := Option.isSome_iff_exists.mp points
    rw [h.claves p] at hk
    obtain ⟨n, hn, _⟩ := Option.bind_eq_some_iff.mp hk
    exact ⟨.archivo n, by simp [Hilo.mutex, hn]⟩
  | _ => exact ⟨_, rfl⟩

theorem cuadran_lock (h : Cuadran antes s) (next : (s.hilos i).restantes = .lock x :: resto) :
    Cuadran antes (s.lock i x resto) := by
  unfold Sistema.lock
  split
  · exact h
  rename_i m hm
  split
  · rename_i free
    rw [Option.isNone_iff_eq_none] at free
    refine ⟨h.dict, fun j => ?_⟩
    obtain ⟨c, hc⟩ := h.cuentas j
    by_cases same : j = i
    · subst same
      exact ⟨_, cuadra_lock hc next hm free⟩
    · refine ⟨c, cuadra_ajeno hc (hilos_seguir_otro s _ resto same) (fun _ _ _ => rfl) ?_⟩
      intro m'
      by_cases e : m' = m
      · simp [e, free, Ne.symm same]
      · simp [e]
  · exact h

theorem cuadran_unlock (h : Cuadran antes s)
    (next : (s.hilos i).restantes = .unlock x :: resto) :
    Cuadran antes (s.unlock i x resto) := by
  obtain ⟨c, hc⟩ := h.cuentas i
  have text := hc.disciplina
  rw [next] at text
  obtain ⟨m, hm⟩ := tomado_mutex hc text.1
  have mine : s.duenio m = some i := (hc.tomados m).mpr ⟨x, text.1, hm⟩
  simp only [Sistema.unlock, hm]
  refine ⟨h.dict, fun j => ?_⟩
  by_cases same : j = i
  · subst same
    exact ⟨_, cuadra_unlock hc next hm⟩
  · obtain ⟨c', hc'⟩ := h.cuentas j
    refine ⟨c', cuadra_ajeno hc' (hilos_seguir_otro s _ resto same) (fun _ _ _ => rfl) ?_⟩
    intro m'
    by_cases e : m' = m
    · simp [e, mine, Ne.symm same]
    · simp [e]

omit [DecidableEq Id] in
theorem dictValido_crearMutex (h : DictValido s) (live : Vivos s) (clave : String) :
    DictValido (s.crearMutex clave (s.direccion malloc)) := by
  intro k n hk
  by_cases same : k = clave
  · subst same
    simp only [Sistema.crearMutex, Function.update_self, Option.some.injEq] at hk
    subst hk
    simp [Sistema.crearMutex]
  · simp only [Sistema.crearMutex, Function.update_of_ne same] at hk
    have apart : n ≠ s.direccion malloc := fun e => direccion_libre live k (e ▸ hk)
    simp only [Sistema.crearMutex, Function.update_of_ne apart]
    exact h k n hk

omit [DecidableEq Id] in
theorem claves_crearMutex (live : Vivos s) (clave : String) (j : Id) (p : Puntero) (n : Nat)
    (hp : (s.hilos j).punteros p = some n) :
    (s.crearMutex clave (s.direccion malloc)).claves n = s.claves n := by
  have apart : n ≠ s.direccion malloc := fun e => sin_punteros_a_direccion live j p (e ▸ hp)
  simp [Sistema.crearMutex, apart]

omit [DecidableEq Id] in
theorem duenio_crearMutex (live : Vivos s) (h : Cuadra antes s j c) (clave : String) (m : Mutex) :
    (s.crearMutex clave (s.direccion malloc)).duenio m = some j ↔ s.duenio m = some j := by
  by_cases same : m = .archivo (s.direccion malloc)
  · subst same
    simp only [Sistema.crearMutex, Function.update_self, reduceCtorEq, false_iff]
    intro mine
    obtain ⟨x, _, hx⟩ := (h.tomados _).mp mine
    cases x with
    | archivo p =>
      obtain ⟨n, hn, e⟩ := Option.map_eq_some_iff.mp hx
      cases e
      exact sin_punteros_a_direccion live j p hn
    | _ => cases hx
  · simp [Sistema.crearMutex, same]

theorem cuadran_obtener (h : Cuadran antes s) (live : Vivos s)
    (next : (s.hilos i).restantes = .obtener p clave :: resto) :
    Cuadran antes (s.obtener malloc i p clave resto) := by
  unfold Sistema.obtener
  split
  · rename_i n hn
    refine ⟨h.dict, fun j => ?_⟩
    obtain ⟨c, hc⟩ := h.cuentas j
    by_cases same : j = i
    · subst same
      exact ⟨_, cuadra_obtener hc next (hilos_seguir_propio s j _ resto) (fun _ _ _ => rfl)
        (h.dict clave n hn) fun _ => Iff.rfl⟩
    · exact ⟨c, cuadra_ajeno hc (hilos_seguir_otro s _ resto same) (fun _ _ _ => rfl)
        fun _ => Iff.rfl⟩
  · refine ⟨dictValido_crearMutex h.dict live clave, fun j => ?_⟩
    obtain ⟨c, hc⟩ := h.cuentas j
    by_cases same : j = i
    · subst same
      exact ⟨_, cuadra_obtener hc next (hilos_seguir_propio (s.crearMutex clave _) j _ resto)
        (claves_crearMutex live clave j) (by simp [Sistema.crearMutex, Sistema.seguir])
        (duenio_crearMutex live hc clave)⟩
    · exact ⟨c, cuadra_ajeno hc (hilos_seguir_otro (s.crearMutex clave _) _ resto same)
        (claves_crearMutex live clave j) (duenio_crearMutex live hc clave)⟩

theorem cuadran_quitar (h : Cuadran antes s)
    (next : (s.hilos i).restantes = .quitar clave :: resto) :
    Cuadran antes (s.quitar i clave resto) := by
  unfold Sistema.quitar
  split
  · refine ⟨h.dict, fun j => ?_⟩
    obtain ⟨c, hc⟩ := h.cuentas j
    by_cases same : j = i
    · subst same
      exact ⟨c, cuadra_quitar hc next (hilos_seguir_propio s j _ resto) rfl rfl⟩
    · exact ⟨c, cuadra_ajeno hc (hilos_seguir_otro s _ resto same) (fun _ _ _ => rfl)
        fun _ => Iff.rfl⟩
  · refine ⟨?_, fun j => ?_⟩
    · intro k n hk
      by_cases same : k = clave
      · simp [same] at hk
      · simp only [Function.update_of_ne same] at hk
        exact h.dict k n hk
    · obtain ⟨c, hc⟩ := h.cuentas j
      by_cases same : j = i
      · subst same
        exact ⟨c, cuadra_quitar hc next (hilos_seguir_propio s j _ resto) rfl rfl⟩
      · exact ⟨c, cuadra_ajeno hc (hilos_seguir_otro s _ resto same) (fun _ _ _ => rfl)
          fun _ => Iff.rfl⟩

theorem cuadran_avanzar (h : Cuadran antes s) (live : Vivos s) (i : Id) :
    Cuadran antes (avanzar malloc s i) := by
  unfold avanzar
  split
  · exact h
  · rename_i next
    exact cuadran_lock h next
  · rename_i next
    exact cuadran_unlock h next
  · rename_i next
    exact cuadran_obtener h live next
  · rename_i next
    exact cuadran_quitar h next

omit [DecidableEq Id] in
theorem cuadran_inicial (mono : ∀ r q : Rango, r < q → antes r q)
    (solicitudes : Id → List Solicitud)
    (tags : ∀ i, ∀ r ∈ solicitudes i, TagEnOrden antes r) :
    Cuadran antes (inicial solicitudes) := by
  refine ⟨fun k n hk => by simp [inicial] at hk, fun i => ⟨sinNada, ?_⟩⟩
  refine ⟨disciplinada_solicitudes mono _ (tags i), fun p => rfl, ?_, ?_, ?_, List.nodup_nil, ?_⟩
  · intro p n hp
    simp [inicial] at hp
  · intro m
    simp [inicial, sinNada]
  · simp [sinNada]
  · simp [sinNada]

end StorageCuentas
