import MasterOfFiles.Worker.Ejecucion

/-!
acceder_memoria in C arithmetic: an offset that may be negative, sums in size_t and pages
numbered by ints. Each turn of the loop leaves its memcpy in a list, with the address in
memory_arena and the place in contenido or buffer_total.
-/
namespace WorkerDirecciones
open StorageEstado StorageEscritura WorkerMemoria WorkerPaginas WorkerReemplazo WorkerCoherencia
open WorkerAccesos WorkerRecorridos WriteBack
open WorkerEjecucion (archivoUno)

/-- The replies to STORAGE_READ_BLOCK during one access to a File:Tag, which asks for no block
    twice. The replies to its flushes are not looked at. -/
abbrev Respuestas := Int → Option Bytes

def servidorDe (respuestas : Respuestas) : Servidor Unit where
  leerBloque := fun _ _ k => respuestas k
  flush := fun _ _ _ _ => (true, ())

/-- One memcpy of the loop: the page and the entry of its frame, whether the page was copied to
    the frame just before, and where in the arena and in the buffer the copy starts. -/
structure Turno where
  pagina : Int
  marco : Nat
  entrada : Option EntradaPagina
  cargada : Bool
  escribe : Bool
  direccion : Int
  cuantos : Nat
  procesados : Nat

def Turno.tocaArena (t : Turno) : Bool := t.cargada || t.escribe

structure Direcciones where
  nodo : Nodo Unit
  pedidas : List Int
  turnos : List Turno
  devuelve : Bool

variable (asigna : Nat → Bool) (respuestas : Respuestas) (cfg : ConfigMemoria)

/-- buscar_pagina and cargar_pagina of any int. No page of a negative number is ever loaded:
    leer_bloque refuses them. -/
def pedirPagina (n : Nodo Unit) (f : Archivo) (pagina : Int) : Option Nat × Nodo Unit :=
  if pagina < 0 then (none, (marcoParaCargar (servidorDe respuestas) cfg n).2)
  else obtenerPagina (servidorDe respuestas) cfg n f pagina.toNat

/-- memcpy to any address of memory_arena; frame m starts at m * tamanio_pagina. -/
def copiarEnArena (mem : Memoria) (direccion : Int) (cuantos : Nat) (fuente : Nat → UInt8) :
    Memoria :=
  { mem with
    arena := fun m => (mem.arena m).mapIdx fun i b =>
      let lugar : Int := m * cfg.tamanioPagina + i - direccion
      if i < cfg.tamanioPagina ∧ 0 ≤ lugar ∧ lugar < cuantos then fuente lugar.toNat else b }

def trasCopia (mem : Memoria) (m : Nat) (escritura : Option (Nat → UInt8)) (direccion : Int)
    (cuantos procesados : Nat) : Memoria :=
  match escritura with
  | none => tocarPagina cfg mem m false
  | some contenido =>
    copiarEnArena cfg (tocarPagina cfg mem m true) direccion cuantos fun i =>
      contenido (procesados + i)

def bytesEnPagina (despl : Int) (restantes : Nat) : Nat :=
  if cfg.tamanioPagina < aSizeT (despl + restantes) then aSizeT (cfg.tamanioPagina - despl)
  else restantes

/-- The loop; its first argument counts the turns up to num_pagina_final. `escritura` is the
    memory from contenido on. -/
def recorrerDirecciones (f : Archivo) (escritura : Option (Nat → UInt8)) :
    Nat → Int → Int → Nat → Nat → Nodo Unit → Direcciones
  | 0, _, _, _, _, n => ⟨n, [], [], true⟩
  | vueltas + 1, pagina, despl, restantes, procesados, n =>
    if restantes = 0 then ⟨n, [], [], true⟩
    else
      let cuantos := bytesEnPagina cfg despl restantes
      match pedirPagina respuestas cfg n f pagina with
      | (none, n') => ⟨n', [pagina], [], false⟩
      | (some m, n') =>
        let direccion := m * cfg.tamanioPagina + despl
        let turno : Turno := ⟨pagina, m, n'.mem.marcos m, (entradaDe n.mem f pagina.toNat).isNone,
          escritura.isSome, direccion, cuantos, procesados⟩
        let r := recorrerDirecciones f escritura vueltas (pagina + 1) 0
          (aSizeT (restantes - cuantos)) (aSizeT (procesados + cuantos))
          { n' with mem := trasCopia cfg n'.mem m escritura direccion cuantos procesados }
        { r with pedidas := pagina :: r.pedidas, turnos := turno :: r.turnos }

/-- acceder_memoria; `asigna` says which sizes malloc grants for buffer_total. -/
def accederDirecciones (n : Nodo Unit) (f : Archivo) (offset : Int) (tam : Nat)
    (escritura : Option (Nat → UInt8)) : Direcciones :=
  if tam = 0 then ⟨n, [], [], false⟩
  else if escritura = none ∧ asigna tam = false then ⟨n, [], [], false⟩
  else
    let inicial := numPaginaInicial cfg offset
    let final := numPaginaFinal cfg offset tam
    recorrerDirecciones respuestas cfg f escritura (final - inicial + 1).toNat inicial
      (offset.tmod cfg.tamanioPagina) tam 0 n

variable {asigna : Nat → Bool} {respuestas : Respuestas} {cfg : ConfigMemoria} {n n' : Nodo Unit}
  {f : Archivo} {escritura : Option (Nat → UInt8)} {m pagina despl restantes procesados : Nat}

theorem pagina_entera (entera : cfg.tamanioMemoria < 2147483648) :
    cfg.tamanioPagina < 2147483648 := lt_of_le_of_lt cfg.un_marco entera

theorem aSizeT_natCast {u : Nat} (fits : u < 18446744073709551616) : aSizeT u = u := by
  unfold aSizeT
  omega

theorem bytesEnPagina_natural (entera : cfg.tamanioMemoria < 2147483648)
    (inside : despl < cfg.tamanioPagina) (fits : restantes < 9223372036854775808) :
    bytesEnPagina cfg despl restantes =
      enPagina cfg despl restantes := by
  have page := pagina_entera entera
  have sum : aSizeT ((despl : Int) + restantes) = despl + restantes := by
    rw [← Nat.cast_add]
    exact aSizeT_natCast (by omega)
  have rest : aSizeT ((cfg.tamanioPagina : Int) - despl) = cfg.tamanioPagina - despl := by
    rw [← Nat.cast_sub inside.le]
    exact aSizeT_natCast (by omega)
  rw [bytesEnPagina, enPagina, sum, rest]

def turnoDe (cfg : ConfigMemoria) (n n' : Nodo Unit) (f : Archivo)
    (escritura : Option (Nat → UInt8)) (m pagina despl restantes procesados : Nat) : Turno :=
  ⟨pagina, m, n'.mem.marcos m, (entradaDe n.mem f pagina).isNone, escritura.isSome,
    (m * cfg.tamanioPagina + despl : Nat), enPagina cfg despl restantes, procesados⟩

def trasTurno (cfg : ConfigMemoria) (n' : Nodo Unit) (escritura : Option (Nat → UInt8))
    (m despl restantes procesados : Nat) : Nodo Unit :=
  { n' with
    mem := trasCopia cfg n'.mem m escritura (m * cfg.tamanioPagina + despl : Nat)
      (enPagina cfg despl restantes) procesados }

theorem recorrer_falla (more : restantes ≠ 0)
    (missed : obtenerPagina (servidorDe respuestas) cfg n f pagina = (none, n'))
    (vueltas : Nat) (despl : Int) :
    recorrerDirecciones respuestas cfg f escritura (vueltas + 1) pagina despl
      restantes procesados n = ⟨n', [(pagina : Int)], [], false⟩ := by
  have natural : ¬ (pagina : Int) < 0 := by omega
  rw [recorrerDirecciones, if_neg more]
  simp only [pedirPagina, if_neg natural, Int.toNat_natCast, missed]

theorem recorrer_sigue (entera : cfg.tamanioMemoria < 2147483648) (more : restantes ≠ 0)
    (inside : despl < cfg.tamanioPagina) (fits : procesados + restantes < 9223372036854775808)
    (found : obtenerPagina (servidorDe respuestas) cfg n f pagina = (some m, n'))
    (vueltas : Nat) :
    let r := recorrerDirecciones respuestas cfg f escritura vueltas
      (pagina + 1 : Nat) (0 : Nat) (restantes - enPagina cfg despl restantes)
      (procesados + enPagina cfg despl restantes)
      (trasTurno cfg n' escritura m despl restantes procesados)
    recorrerDirecciones respuestas cfg f escritura (vueltas + 1) pagina despl
        restantes procesados n =
      { r with
        pedidas := (pagina : Int) :: r.pedidas
        turnos := turnoDe cfg n n' f escritura m pagina despl restantes procesados
          :: r.turnos } := by
  have natural : ¬ (pagina : Int) < 0 := by omega
  obtain ⟨le, _⟩ := enPagina_le restantes inside
  have left : aSizeT ((restantes : Int) - enPagina cfg despl restantes) =
      restantes - enPagina cfg despl restantes := by
    rw [← Nat.cast_sub le]
    exact aSizeT_natCast (by omega)
  have done : aSizeT ((procesados : Int) + enPagina cfg despl restantes) =
      procesados + enPagina cfg despl restantes := by
    rw [← Nat.cast_add]
    exact aSizeT_natCast (by omega)
  rw [recorrerDirecciones, if_neg more]
  simp only [pedirPagina, if_neg natural, Int.toNat_natCast, found,
    bytesEnPagina_natural entera inside (show restantes < 9223372036854775808 by omega), left, done,
    turnoDe, trasTurno, Nat.cast_add, Nat.cast_mul, Nat.cast_one, Nat.cast_zero]

theorem recorrer_pide (more : restantes ≠ 0) (respuestas : Respuestas) (cfg : ConfigMemoria)
    (f : Archivo) (escritura : Option (Nat → UInt8)) (vueltas : Nat) (pagina despl : Int)
    (procesados : Nat) (n : Nodo Unit) : pagina ∈ (recorrerDirecciones respuestas cfg f escritura
      (vueltas + 1) pagina despl restantes procesados n).pedidas := by
  rw [recorrerDirecciones, if_neg more]
  rcases pedirPagina respuestas cfg n f pagina with ⟨_ | m, n₁⟩ <;> simp

theorem recorrer_copia (more : restantes ≠ 0) (escritura : Option (Nat → UInt8)) (vueltas : Nat)
    (found : obtenerPagina (servidorDe respuestas) cfg n f 0 = (some m, n')) (despl : Int)
    (procesados : Nat) :
    ∃ t ∈ (recorrerDirecciones respuestas cfg f escritura (vueltas + 1) 0 despl restantes
      procesados n).turnos, t.marco = m ∧ t.direccion = m * cfg.tamanioPagina + despl := by
  rw [recorrerDirecciones, if_neg more]
  simp [pedirPagina, found]

theorem trasTurno_enOrden (ord : Ordenada cfg n.mem) (dia : LruAlDia cfg n.mem)
    {e : EntradaPagina} (he : n.mem.marcos m = some e) (escritura : Option (Nat → UInt8))
    (despl restantes procesados : Nat) :
    Ordenada cfg (trasTurno cfg n escritura m despl restantes procesados).mem ∧
      LruAlDia cfg (trasTurno cfg n escritura m despl restantes procesados).mem := by
  cases escritura with
  | none => exact ⟨ordenada_mismas (tocarPagina_lectura cfg n.mem m) ord, dia⟩
  | some contenido =>
    obtain ⟨tabla, sinRepetir, unica, rango⟩ := ordenada_escribir ord he 0 []
    exact ⟨⟨tabla, sinRepetir, unica, rango⟩, lruAlDia_escribir dia he 0 []⟩

/-- The frame holds the page, and the copy stays in it and in the buffer. -/
structure EnSuMarco (cfg : ConfigMemoria) (f : Archivo) (tam : Nat) (t : Turno) : Prop where
  pagina : ∃ e ∈ t.entrada, e.archivo = f ∧ (e.numeroPagina : Int) = t.pagina
  marco : t.marco < cfg.cantidadMarcos
  arena : ((t.marco * cfg.tamanioPagina : Nat) : Int) ≤ t.direccion ∧
    t.direccion + t.cuantos ≤ ((t.marco + 1) * cfg.tamanioPagina : Nat)
  buffer : t.procesados + t.cuantos ≤ tam

theorem turnoDe_enSuMarco (inside : despl < cfg.tamanioPagina) {e : EntradaPagina}
    (he : n'.mem.marcos m = some e) (file : e.archivo = f) (num : e.numeroPagina = pagina)
    (ord : Ordenada cfg n'.mem) {tam : Nat} (total : procesados + restantes = tam) :
    EnSuMarco cfg f tam (turnoDe cfg n n' f escritura m pagina despl restantes procesados) := by
  obtain ⟨le, fits, _⟩ := enPagina_le restantes inside
  refine ⟨⟨e, he, file, by rw [num]; rfl⟩, ord.rango m e he, ?_, ?_⟩
  · simp only [turnoDe, Nat.succ_mul]
    omega
  · simp only [turnoDe]
    omega

theorem recorrer_dentro (entera : cfg.tamanioMemoria < 2147483648) {tam : Nat}
    (fits : tam < 9223372036854775808) (f : Archivo) (escritura : Option (Nat → UInt8))
    (vueltas : Nat) : ∀ (pagina despl restantes procesados : Nat) (n : Nodo Unit),
      Ordenada cfg n.mem → LruAlDia cfg n.mem → despl < cfg.tamanioPagina →
      procesados + restantes = tam →
      let r := recorrerDirecciones respuestas cfg f escritura vueltas pagina despl restantes
        procesados n
      (∀ t ∈ r.turnos, EnSuMarco cfg f tam t) ∧ ∀ k ∈ r.pedidas, 0 ≤ k := by
  induction vueltas with
  | zero => simp [recorrerDirecciones]
  | succ vueltas ih =>
    intro pagina despl restantes procesados n ord dia inside total
    by_cases more : restantes = 0
    · simp [recorrerDirecciones, more]
    obtain ⟨steps, dia₁, there, _⟩ := obtenerPagina_spec (servidorDe respuestas) ord dia f pagina
    rcases turn : obtenerPagina (servidorDe respuestas) cfg n f pagina with ⟨_ | m, n₁⟩
    · rw [recorrer_falla more turn]
      simp
    rw [turn] at steps dia₁ there
    obtain ⟨e, he, file, num⟩ := there m rfl
    have ord₁ := ordenada_pasos steps ord
    obtain ⟨le, _⟩ := enPagina_le restantes inside
    obtain ⟨ord₂, dia₂⟩ := trasTurno_enOrden ord₁ dia₁ he escritura despl restantes procesados
    obtain ⟨copies, pages⟩ := ih (pagina + 1) 0 (restantes - enPagina cfg despl restantes)
      (procesados + enPagina cfg despl restantes) _ ord₂ dia₂ cfg.pagina_pos (by omega)
    rw [recorrer_sigue entera more inside (by omega) turn]
    constructor
    · exact List.forall_mem_cons.mpr ⟨turnoDe_enSuMarco inside he file num ord₁ total, copies⟩
    · exact List.forall_mem_cons.mpr ⟨Int.natCast_nonneg pagina, pages⟩

theorem obtener_ausente (cfg : ConfigMemoria) (notLoaded : entradaDe n.mem f pagina = none)
    (noBlock : respuestas pagina = none) :
    (obtenerPagina (servidorDe respuestas) cfg n f pagina).1 = none := by
  unfold obtenerPagina buscarPagina cargarPagina
  simp only [notLoaded]
  rcases marcoParaCargar (servidorDe respuestas) cfg n with ⟨_ | m, n₁⟩
  · rfl
  · simp only [servidorDe, noBlock]

theorem obtener_cargada (respuestas : Respuestas) (cfg : ConfigMemoria)
    (loaded : entradaDe n.mem f pagina = some m) :
    ∃ mem, MismasPaginas n.mem mem ∧
      obtenerPagina (servidorDe respuestas) cfg n f pagina = (some m, { n with mem := mem }) := by
  obtain ⟨found, same⟩ := buscarPagina_spec cfg n.mem f pagina
  unfold obtenerPagina
  generalize buscarPagina cfg n.mem f pagina = search at found same ⊢
  obtain ⟨hit, mem⟩ := search
  obtain rfl : hit = some m := found.trans loaded
  exact ⟨mem, same, rfl⟩

theorem vista_none_iff (ord : Ordenada cfg n.mem) (k : Nat) :
    vista (servidorDe respuestas) n (f, k) = none ↔
      entradaDe n.mem f k = none ∧ respuestas k = none := by
  cases loaded : entradaDe n.mem f k with
  | none => simp [vista, view, paginas, loaded, bloques, servidorDe]
  | some m =>
    obtain ⟨e, he, rfl, rfl⟩ := (entradaDe_some ord).mp loaded
    simp [vista_cargada ord he]

theorem vista_mismas {mem : Memoria} (same : MismasPaginas n.mem mem) :
    vista (servidorDe respuestas) { n with mem := mem } = vista (servidorDe respuestas) n := by
  simp only [vista, paginas_mismas same]

theorem entradaDe_mismas {mem mem' : Memoria} (same : MismasPaginas mem mem') (f : Archivo)
    (k : Nat) : entradaDe mem' f k = entradaDe mem f k := by
  simp only [entradaDe, same.tablas, same.marcos]

theorem recorrer_intacto (entera : cfg.tamanioMemoria < 2147483648) {j : Nat}
    (noBlock : respuestas j = none) (f : Archivo) (vueltas : Nat) :
    ∀ (pagina despl restantes procesados : Nat) (n : Nodo Unit),
      despl < cfg.tamanioPagina → restantes ≠ 0 →
      procesados + restantes < 9223372036854775808 →
      pagina ≤ j → j < pagina + vueltas →
      j * cfg.tamanioPagina < pagina * cfg.tamanioPagina + despl + restantes →
      entradaDe n.mem f j = none →
      (∀ k, pagina ≤ k → k < j → (entradaDe n.mem f k).isSome = true) →
      let r := recorrerDirecciones respuestas cfg f none vueltas pagina despl restantes
        procesados n
      r.devuelve = false ∧ ∀ t ∈ r.turnos, t.tocaArena = false := by
  induction vueltas with
  | zero =>
    intro pagina despl restantes procesados n _ _ _ low high
    omega
  | succ vueltas ih =>
    intro pagina despl restantes procesados n inside more fits low high reaches absent loaded
    by_cases here : pagina = j
    · subst here
      have missed := obtener_ausente cfg absent noBlock
      rcases turn : obtenerPagina (servidorDe respuestas) cfg n f pagina with ⟨_ | m, n₁⟩
      · rw [recorrer_falla more turn]
        simp
      · rw [turn] at missed
        contradiction
    obtain ⟨m, hm⟩ := Option.isSome_iff_exists.mp (loaded pagina (le_refl _) (by omega))
    obtain ⟨mem, same, turn⟩ := obtener_cargada respuestas cfg hm
    obtain ⟨le, _, end_⟩ := enPagina_le restantes inside
    -- the page ends before page j starts, so there is more to read
    have before : (pagina + 1) * cfg.tamanioPagina ≤ j * cfg.tamanioPagina :=
      Nat.mul_le_mul_right _ (by omega)
    rw [Nat.succ_mul] at before
    have left : restantes - enPagina cfg despl restantes ≠ 0 := by
      have fits := (enPagina_le restantes inside).2.1
      omega
    have entries : ∀ k, entradaDe (tocarPagina cfg mem m false) f k = entradaDe n.mem f k :=
      entradaDe_mismas ⟨same.arena, same.marcos, same.tablas⟩ f
    rw [recorrer_sigue entera more inside fits turn]
    obtain ⟨null, untouched⟩ := ih (pagina + 1) 0 (restantes - enPagina cfg despl restantes)
      (procesados + enPagina cfg despl restantes)
      (trasTurno cfg { n with mem := mem } none m despl restantes procesados) cfg.pagina_pos left
      (by omega) (by omega) (by omega) (by rw [Nat.succ_mul]; omega)
      ((entries j).trans absent)
      fun k lo hi => (congrArg _ (entries k)).trans (loaded k (by omega) hi)
    refine ⟨null, List.forall_mem_cons.mpr ⟨?_, untouched⟩⟩
    simp [turnoDe, Turno.tocaArena, hm]

/-- What an access that stored nothing and failed came across. -/
def Tropiezo (respuestas : Respuestas) (n : Nodo Unit) (f : Archivo)
    (escritura : Option (Nat → UInt8)) (inicial j : Nat) : Prop :=
  vista (servidorDe respuestas) n (f, j) = none ∧ (j = inicial ∨
    escritura = none ∧ ∀ k, inicial ≤ k → k < j → (entradaDe n.mem f k).isSome = true)

theorem recorrer_tropiezo (entera : cfg.tamanioMemoria < 2147483648) (f : Archivo)
    (escritura : Option (Nat → UInt8)) (vueltas : Nat) :
    ∀ (pagina despl restantes procesados : Nat) (n : Nodo Unit),
      Ordenada cfg n.mem → LruAlDia cfg n.mem → despl < cfg.tamanioPagina →
      procesados + restantes < 9223372036854775808 →
      let r := recorrerDirecciones respuestas cfg f escritura vueltas pagina despl restantes
        procesados n
      r.devuelve = false → (∀ t ∈ r.turnos, t.tocaArena = false) →
      ∃ j, pagina ≤ j ∧ j < pagina + vueltas ∧ Tropiezo respuestas n f escritura pagina j := by
  induction vueltas with
  | zero => simp [recorrerDirecciones]
  | succ vueltas ih =>
    intro pagina despl restantes procesados n ord dia inside fits
    by_cases more : restantes = 0
    · simp [recorrerDirecciones, more]
    obtain ⟨steps, dia₁, there, missing⟩ :=
      obtenerPagina_spec (servidorDe respuestas) ord dia f pagina
    rcases turn : obtenerPagina (servidorDe respuestas) cfg n f pagina with ⟨_ | m, n₁⟩
    · intro r _ _
      rw [turn] at missing
      exact ⟨pagina, le_refl _, by omega, (vista_none_iff ord pagina).mpr (missing rfl), .inl rfl⟩
    rw [turn] at steps dia₁ there
    obtain ⟨e, he, _⟩ := there m rfl
    rw [recorrer_sigue entera more inside fits turn]
    intro r null untouched
    obtain ⟨first, rest⟩ := List.forall_mem_cons.mp untouched
    simp only [turnoDe, Turno.tocaArena, Bool.or_eq_false_iff] at first
    obtain ⟨loaded, reads⟩ := first
    obtain rfl : escritura = none := by simpa using reads
    obtain ⟨ord₂, dia₂⟩ :=
      trasTurno_enOrden (ordenada_pasos steps ord) dia₁ he none despl restantes procesados
    -- the page was loaded, so this turn changed nothing but the order of the frames
    obtain ⟨m₀, hm⟩ : ∃ m₀, entradaDe n.mem f pagina = some m₀ :=
      Option.isSome_iff_exists.mp (by simpa using loaded)
    obtain ⟨mem, same, found⟩ := obtener_cargada respuestas cfg hm
    cases turn.symm.trans found
    have touched : MismasPaginas n.mem (tocarPagina cfg mem m false) :=
      ⟨same.arena, same.marcos, same.tablas⟩
    obtain ⟨le, _⟩ := enPagina_le restantes inside
    obtain ⟨j, low, high, unseen, before⟩ := ih (pagina + 1) 0
      (restantes - enPagina cfg despl restantes) (procesados + enPagina cfg despl restantes) _
      ord₂ dia₂ cfg.pagina_pos (by omega) null rest
    refine ⟨j, by omega, by omega, ?_, .inr ⟨rfl, ?_⟩⟩
    · rw [← vista_mismas touched]
      exact unseen
    · intro k lo hi
      by_cases here : k = pagina
      · rw [here, hm]
        rfl
      · obtain ⟨_, all⟩ := before.resolve_left (by omega)
        rw [← entradaDe_mismas touched]
        exact all k (by omega) hi

def EmpiezaCon (escritura : Option (Nat → UInt8)) (contenido : Option Bytes) (tam : Nat) : Prop :=
  match escritura, contenido with
  | none, none => True
  | some memoria, some texto => texto.length = tam ∧ ∀ i, ∀ h : i < texto.length,
      memoria i = texto[i]
  | _, _ => False

theorem copiarEnArena_marco {mem : Memoria} {m : Nat}
    (size : (mem.arena m).length = cfg.tamanioPagina) {parcial : Bytes}
    (fits : despl + parcial.length ≤ cfg.tamanioPagina) (fuente : Nat → UInt8)
    (same : ∀ i, ∀ h : i < parcial.length, fuente i = parcial[i]) :
    copiarEnArena cfg mem (m * cfg.tamanioPagina + despl : Nat) parcial.length fuente =
      copiarEnMarco mem m despl parcial := by
  have kept : ∀ (x : Option UInt8) (p : Prop) [Decidable p] (g : UInt8), ¬ p →
      x.map (fun b => if p then g else b) = x := by
    intro x p _ g hp
    simp [hp]
  have arena : (copiarEnArena cfg mem (m * cfg.tamanioPagina + despl : Nat) parcial.length
      fuente).arena = (copiarEnMarco mem m despl parcial).arena := by
    funext frame
    apply List.ext_getElem?
    intro i
    simp only [copiarEnArena, copiarEnMarco, List.getElem?_mapIdx]
    by_cases here : frame = m
    · subst here
      rw [Function.update_self, ← conParcial, conParcial_get (size.symm ▸ fits)]
      by_cases inside : despl ≤ i ∧ i < despl + parcial.length
      · obtain ⟨low, high⟩ := inside
        have place : (frame : Int) * cfg.tamanioPagina + i -
            (frame * cfg.tamanioPagina + despl : Nat) = (i - despl : Nat) := by omega
        have there : i < (mem.arena frame).length := by omega
        have spot : i - despl < parcial.length := by omega
        rw [if_pos ⟨low, high⟩, List.getElem?_eq_getElem there, Option.map_some, place,
          if_pos ⟨by omega, by omega, by omega⟩, Int.toNat_natCast, same _ spot,
          List.getElem?_eq_getElem spot]
      · rw [if_neg inside, kept]
        omega
    · rw [Function.update_of_ne here, kept]
      rintro ⟨small, low, high⟩
      rcases Nat.lt_or_gt_of_ne here with before | after
      · have apart := Nat.mul_le_mul_right cfg.tamanioPagina before
        rw [Nat.succ_mul] at apart
        omega
      · have apart := Nat.mul_le_mul_right cfg.tamanioPagina after
        rw [Nat.succ_mul] at apart
        omega
  rw [copiarEnArena, copiarEnMarco] at arena ⊢
  dsimp only at arena
  rw [arena]

theorem pasos_largas
    (largo : ∀ k bloque, respuestas k = some bloque → bloque.length = cfg.tamanioPagina)
    (ord : Ordenada cfg n.mem) (steps : Pasos (servidorDe respuestas) cfg n n')
    (sizes : ∀ q line, paginas n.mem q = some line → line.value.length = cfg.tamanioPagina) :
    ∀ q line, paginas n'.mem q = some line → line.value.length = cfg.tamanioPagina := by
  induction steps with
  | refl => exact sizes
  | tail before step ih =>
    exact paso_largas (ordenada_pasos before ord) step (fun _ => largo) ih

theorem trasTurno_refina {contenido : Option Bytes} {tam : Nat}
    (starts : EmpiezaCon escritura contenido tam)
    (size : (n.mem.arena m).length = cfg.tamanioPagina) (inside : despl < cfg.tamanioPagina)
    (total : procesados + restantes = tam) :
    trasTurno cfg n escritura m despl restantes procesados =
      { n with
        mem := contenido.elim (tocarPagina cfg n.mem m false) fun texto =>
          escribirPagina cfg n.mem m despl
            ((texto.drop procesados).take (enPagina cfg despl restantes)) } := by
  obtain ⟨le, fits, _⟩ := enPagina_le restantes inside
  cases escritura with
  | none =>
    cases contenido with
    | none => rfl
    | some _ => exact starts.elim
  | some memoria =>
    cases contenido with
    | none => exact starts.elim
    | some texto =>
      obtain ⟨rfl, same⟩ := starts
      have count : ((texto.drop procesados).take (enPagina cfg despl restantes)).length =
          enPagina cfg despl restantes := by
        rw [List.length_take, List.length_drop]
        omega
      have touched : ((tocarPagina cfg n.mem m true).arena m).length = cfg.tamanioPagina := size
      have copied := copiarEnArena_marco touched (count.symm ▸ fits)
        (fun i => memoria (procesados + i)) (fun i h => by
          rw [List.getElem_take, List.getElem_drop]
          exact same _ _)
      rw [count] at copied
      simp only [trasTurno, trasCopia, copied, Option.elim_some, escribirPagina]

theorem recorrer_refina (entera : cfg.tamanioMemoria < 2147483648)
    (largo : ∀ k bloque, respuestas k = some bloque → bloque.length = cfg.tamanioPagina)
    {contenido : Option Bytes} {tam : Nat} (starts : EmpiezaCon escritura contenido tam)
    (fits : tam < 9223372036854775808) (f : Archivo) (vueltas : Nat) :
    ∀ (pagina despl restantes procesados : Nat) (leido : Bytes) (n : Nodo Unit),
      Ordenada cfg n.mem → LruAlDia cfg n.mem →
      (∀ q line, paginas n.mem q = some line → line.value.length = cfg.tamanioPagina) →
      despl < cfg.tamanioPagina → procesados + restantes = tam →
      let r := recorrerDirecciones respuestas cfg f escritura vueltas pagina despl restantes
        procesados n
      let r' := recorrerPaginas (servidorDe respuestas) cfg f contenido vueltas pagina despl
        restantes procesados leido n
      r.nodo = r'.nodo ∧ r.devuelve = r'.completo := by
  induction vueltas with
  | zero => simp [recorrerDirecciones, recorrerPaginas]
  | succ vueltas ih =>
    intro pagina despl restantes procesados leido n ord dia sizes inside total
    by_cases more : restantes = 0
    · simp [recorrerDirecciones, recorrerPaginas, more]
    obtain ⟨steps, dia₁, there, _⟩ := obtenerPagina_spec (servidorDe respuestas) ord dia f pagina
    rw [recorrer_turno f contenido more]
    rcases turn : obtenerPagina (servidorDe respuestas) cfg n f pagina with ⟨_ | m, n₁⟩
    · rw [recorrer_falla more turn]
      exact ⟨rfl, rfl⟩
    rw [turn] at steps dia₁ there
    obtain ⟨e, he, _⟩ := there m rfl
    have ord₁ := ordenada_pasos steps ord
    have sizes₁ := pasos_largas largo ord steps sizes
    have step := trasTurno_refina starts (sizes₁ _ _ (paginas_of_marco ord₁ he)) inside total
    obtain ⟨ord₂, dia₂⟩ := trasTurno_enOrden ord₁ dia₁ he escritura despl restantes procesados
    obtain ⟨le, inPage, _⟩ := enPagina_le restantes inside
    rw [recorrer_sigue entera more inside (by omega) turn]
    rw [step] at ord₂ dia₂ ⊢
    refine ih (pagina + 1) 0 (restantes - enPagina cfg despl restantes)
      (procesados + enPagina cfg despl restantes) _ _ ord₂ dia₂ ?_ cfg.pagina_pos (by omega)
    cases contenido with
    | none =>
      dsimp only [Option.elim_none]
      rw [paginas_mismas (tocarPagina_lectura cfg n₁.mem m)]
      exact sizes₁
    | some texto =>
      have part := List.length_take_le (enPagina cfg despl restantes) (texto.drop procesados)
      exact largas_escribir ord₁ he (by omega) sizes₁

variable {offset : Int} {tam : Nat}

/-- Every byte of the access is there when it begins, in a page that an int can number. -/
def Honrable (respuestas : Respuestas) (cfg : ConfigMemoria) (n : Nodo Unit) (f : Archivo)
    (offset : Int) (tam : Nat) : Prop :=
  0 ≤ offset ∧ ∀ k : Nat, offset < ((k + 1) * cfg.tamanioPagina : Nat) →
    ((k * cfg.tamanioPagina : Nat) : Int) < offset + tam →
    k < 2147483648 ∧ (vista (servidorDe respuestas) n (f, k)).isSome = true

/-- Copies stay in their frames and in the buffer, no page of a negative number is asked for, and
    an access that cannot be honoured fails without touching memory_arena. -/
structure EnSusMarcos (respuestas : Respuestas) (cfg : ConfigMemoria) (n : Nodo Unit)
    (f : Archivo) (offset : Int) (tam : Nat) (r : Direcciones) : Prop where
  copias : ∀ t ∈ r.turnos, EnSuMarco cfg f tam t
  paginas : ∀ k ∈ r.pedidas, 0 ≤ k
  rechazo : ¬ Honrable respuestas cfg n f offset tam →
    r.devuelve = false ∧ ∀ t ∈ r.turnos, t.tocaArena = false

/-- There is nothing to do, or everything is there, or the access comes across a page that is not
    there before anything is stored. -/
def Segura (asigna : Nat → Bool) (respuestas : Respuestas) (cfg : ConfigMemoria) (n : Nodo Unit)
    (f : Archivo) (offset : Int) (tam : Nat) (escritura : Option (Nat → UInt8)) : Prop :=
  tam = 0 ∨ (escritura = none ∧ asigna tam = false) ∨ Honrable respuestas cfg n f offset tam ∨
    ∃ inicial j : Nat, numPaginaInicial cfg offset = inicial ∧ -(cfg.tamanioPagina : Int) < offset ∧
      (j = inicial ∨ 0 ≤ offset) ∧ inicial ≤ j ∧ (j : Int) ≤ numPaginaFinal cfg offset tam ∧
      Tropiezo respuestas n f escritura inicial j

theorem accederDirecciones_nada (nothing : tam = 0 ∨ escritura = none ∧ asigna tam = false) :
    accederDirecciones asigna respuestas cfg n f offset tam escritura = ⟨n, [], [], false⟩ := by
  unfold accederDirecciones
  rcases nothing with none_ | refused
  · rw [if_pos none_]
  · rw [if_pos refused, ite_self]

theorem aInt_le (u : Nat) : aInt u ≤ u := by
  unfold aInt
  split <;> omega

theorem numPaginaFinal_reach {o j : Nat} (small : o + tam < 18446744073709551616) (some_ : tam ≠ 0)
    (last : (j : Int) ≤ numPaginaFinal cfg o tam) : j * cfg.tamanioPagina < o + tam := by
  have sum : aSizeT ((o : Int) + tam - 1) = o + tam - 1 := by
    unfold aSizeT
    omega
  have le := aInt_le ((o + tam - 1) / cfg.tamanioPagina)
  rw [numPaginaFinal, sum] at last
  have page : j ≤ (o + tam - 1) / cfg.tamanioPagina := by omega
  have start := (Nat.mul_le_mul_right cfg.tamanioPagina page).trans
    (Nat.div_mul_le_self (o + tam - 1) cfg.tamanioPagina)
  omega

theorem accederDirecciones_refina (entera : cfg.tamanioMemoria < 2147483648)
    (largo : ∀ k bloque, respuestas k = some bloque → bloque.length = cfg.tamanioPagina)
    {contenido : Option Bytes} (starts : EmpiezaCon escritura contenido tam)
    (fits : tam < 9223372036854775808) (granted : ¬ (escritura = none ∧ asigna tam = false))
    (ord : Ordenada cfg n.mem) (dia : LruAlDia cfg n.mem)
    (sizes : ∀ q line, paginas n.mem q = some line → line.value.length = cfg.tamanioPagina)
    {o : Nat} (offset : o < 2147483648) (last : (o + tam - 1) / cfg.tamanioPagina < 2147483648) :
    let r := accederDirecciones asigna respuestas cfg n f o tam escritura
    let r' := accederMemoria (servidorDe respuestas) cfg n f o tam contenido
    r.nodo = r'.nodo ∧ r.devuelve = r'.completo := by
  unfold accederDirecciones accederMemoria
  by_cases none_ : tam = 0
  · rw [if_pos none_, if_pos none_]
    exact ⟨rfl, rfl⟩
  rw [if_neg none_, if_neg granted, if_neg none_]
  have sum : aSizeT ((o : Int) + tam - 1) = o + tam - 1 := by
    unfold aSizeT
    omega
  have order : o / cfg.tamanioPagina ≤ (o + tam - 1) / cfg.tamanioPagina :=
    Nat.div_le_div_right (by omega)
  have final : numPaginaFinal cfg o tam = ((o + tam - 1) / cfg.tamanioPagina : Nat) := by
    rw [numPaginaFinal, sum, aInt, Nat.mod_eq_of_lt (by omega), if_pos last]
  have first : numPaginaInicial cfg o = (o / cfg.tamanioPagina : Nat) := rfl
  have turns : (numPaginaFinal cfg o tam - numPaginaInicial cfg o + 1).toNat =
      (o + tam - 1) / cfg.tamanioPagina - o / cfg.tamanioPagina + 1 := by
    rw [final, first]
    omega
  dsimp only
  rw [turns]
  exact recorrer_refina entera largo starts fits f _ (o / cfg.tamanioPagina)
    (o % cfg.tamanioPagina) tam 0 [] n ord dia sizes (offset_parts cfg o).2 (Nat.zero_add tam)

theorem enSusMarcos_of_segura (entera : cfg.tamanioMemoria < 2147483648)
    (ord : Ordenada cfg n.mem) (dia : LruAlDia cfg n.mem) (high : offset < 2147483648)
    (fits : tam < 9223372036854775808 ∨ escritura = none ∧ asigna tam = false)
    (safe : Segura asigna respuestas cfg n f offset tam escritura) :
    EnSusMarcos respuestas cfg n f offset tam
      (accederDirecciones asigna respuestas cfg n f offset tam escritura) := by
  by_cases nothing : tam = 0 ∨ escritura = none ∧ asigna tam = false
  · rw [accederDirecciones_nada nothing]
    exact ⟨by simp, by simp, by simp⟩
  obtain ⟨some_, granted⟩ := not_or.mp nothing
  replace fits := fits.resolve_right granted
  rw [accederDirecciones, if_neg some_, if_neg granted]
  dsimp only
  -- at a natural offset all copies stay in their frames
  have natural (o : Nat) : offset = o →
      let r := recorrerDirecciones respuestas cfg f escritura
        (numPaginaFinal cfg offset tam - numPaginaInicial cfg offset + 1).toNat
        (numPaginaInicial cfg offset) (offset.tmod cfg.tamanioPagina) tam 0 n
      (∀ t ∈ r.turnos, EnSuMarco cfg f tam t) ∧ ∀ k ∈ r.pedidas, 0 ≤ k := by
    rintro rfl
    exact recorrer_dentro entera fits f escritura _ (o / cfg.tamanioPagina) (o % cfg.tamanioPagina)
      tam 0 n ord dia (offset_parts cfg o).2 (Nat.zero_add tam)
  rcases safe with none_ | refused | honoured | ⟨inicial, j, first, above, where_, low, last, stop⟩
  · exact absurd none_ some_
  · exact absurd refused granted
  · obtain ⟨copies, pages⟩ := natural offset.toNat (by have := honoured.1; omega)
    exact ⟨copies, pages, fun not_ => absurd honoured not_⟩
  obtain ⟨unseen, before⟩ := stop
  obtain ⟨absent, noBlock⟩ := (vista_none_iff ord j).mp unseen
  rw [first] at natural ⊢
  by_cases here : j = inicial
  · subst here
    obtain ⟨v, hv⟩ : ∃ v, (numPaginaFinal cfg offset tam - j + 1).toNat = v + 1 :=
      ⟨(numPaginaFinal cfg offset tam - j).toNat, by omega⟩
    have missed := obtener_ausente cfg absent noBlock
    rcases turn : obtenerPagina (servidorDe respuestas) cfg n f j with ⟨_ | m, n₁⟩
    · rw [hv, recorrer_falla some_ turn]
      exact ⟨by simp, by simp, by simp⟩
    · rw [turn] at missed
      contradiction
  · obtain ⟨rfl, loaded⟩ := before.resolve_left here
    obtain ⟨o, rfl⟩ := Int.eq_ofNat_of_zero_le (where_.resolve_left here)
    obtain ⟨copies, pages⟩ := natural o rfl
    refine ⟨copies, pages, fun _ => ?_⟩
    obtain ⟨parts, inside⟩ := offset_parts cfg o
    obtain rfl : o / cfg.tamanioPagina = inicial := Int.ofNat.inj first
    exact recorrer_intacto entera noBlock f _ (o / cfg.tamanioPagina) (o % cfg.tamanioPagina) tam 0
      n inside some_ (by omega) low (by omega)
      (by rw [parts]; exact numPaginaFinal_reach (by omega) some_ last) absent loaded

theorem numPaginaInicial_negativa {k : Nat}
    (natural : 0 ≤ numPaginaInicial cfg (-k)) : k < cfg.tamanioPagina ∧
      numPaginaInicial cfg (-k) = 0 ∧ (-(k : Int)).tmod cfg.tamanioPagina = -k := by
  rw [numPaginaInicial, Int.neg_tdiv, ← Int.ofNat_tdiv] at natural ⊢
  have page : k / cfg.tamanioPagina = 0 := by
    generalize k / cfg.tamanioPagina = page at natural
    omega
  have small : k < cfg.tamanioPagina := (Nat.div_eq_zero_iff.mp page).resolve_left (by
    have := cfg.pagina_pos
    omega)
  rw [page, Int.neg_tmod, ← Int.ofNat_tmod, Nat.mod_eq_of_lt small]
  exact ⟨small, rfl, rfl⟩

theorem segura_of_enSusMarcos (entera : cfg.tamanioMemoria < 2147483648)
    (ord : Ordenada cfg n.mem) (dia : LruAlDia cfg n.mem)
    (fits : tam < 9223372036854775808 ∨ escritura = none ∧ asigna tam = false)
    (kept : EnSusMarcos respuestas cfg n f offset tam
      (accederDirecciones asigna respuestas cfg n f offset tam escritura)) :
    Segura asigna respuestas cfg n f offset tam escritura := by
  by_cases nothing : tam = 0 ∨ escritura = none ∧ asigna tam = false
  · exact nothing.imp_right .inl
  obtain ⟨some_, granted⟩ := not_or.mp nothing
  replace fits := fits.resolve_right granted
  by_cases honoured : Honrable respuestas cfg n f offset tam
  · exact .inr (.inr (.inl honoured))
  refine .inr (.inr (.inr ?_))
  rw [accederDirecciones, if_neg some_, if_neg granted] at kept
  obtain ⟨copies, pages, rejected⟩ := kept
  obtain ⟨null, untouched⟩ := rejected honoured
  dsimp only at copies pages null untouched
  rcases hv : (numPaginaFinal cfg offset tam - numPaginaInicial cfg offset + 1).toNat with _ | v
  · simp [hv, recorrerDirecciones] at null
  rw [hv] at copies pages null untouched
  have asked : 0 ≤ numPaginaInicial cfg offset := pages _ (recorrer_pide some_ ..)
  by_cases sign : 0 ≤ offset
  · obtain ⟨o, rfl⟩ := Int.eq_ofNat_of_zero_le sign
    have first : numPaginaInicial cfg o = (o / cfg.tamanioPagina : Nat) := rfl
    obtain ⟨j, low, high, stop⟩ := recorrer_tropiezo entera f escritura (v + 1)
      (o / cfg.tamanioPagina) (o % cfg.tamanioPagina) tam 0 n ord dia (offset_parts cfg o).2
      (by omega) null untouched
    exact ⟨o / cfg.tamanioPagina, j, first, by have := cfg.pagina_pos; omega, .inr sign, low,
      by omega, stop⟩
  · obtain ⟨k, rfl⟩ : ∃ k : Nat, offset = -k := ⟨offset.natAbs, by omega⟩
    obtain ⟨small, first, despl⟩ := numPaginaInicial_negativa asked
    rw [first, despl] at copies
    -- page 0 was not found, or its copy would start before the frame
    have missed : obtenerPagina (servidorDe respuestas) cfg n f 0 =
        (none, (obtenerPagina (servidorDe respuestas) cfg n f 0).2) := by
      rcases turn : obtenerPagina (servidorDe respuestas) cfg n f 0 with ⟨_ | m, n₁⟩
      · rfl
      · obtain ⟨t, ht, frame, place⟩ := recorrer_copia some_ escritura v turn (-k) 0
        have low := (copies t ht).arena.1
        rw [frame, place] at low
        omega
    obtain ⟨_, _, _, missing⟩ := obtenerPagina_spec (servidorDe respuestas) ord dia f 0
    exact ⟨0, 0, first, by omega, .inl rfl, le_refl 0, by omega,
      (vista_none_iff ord 0).mpr (missing (by rw [missed])), .inl rfl⟩

/-- A WRITE or READ; a text in memory is an object, shorter than PTRDIFF_MAX. -/
inductive Pedido where
  | write (direccionBase : Int32) (contenido : Bytes)
      (objeto : contenido.length < 9223372036854775808)
  | read (direccionBase tamanio : Int32)

def Pedido.direccionBase : Pedido → Int32
  | .write direccionBase _ _ => direccionBase
  | .read direccionBase _ => direccionBase

/-- strlen of the text, or the size converted to size_t. -/
def Pedido.bytes : Pedido → Nat
  | .write _ contenido _ => (cadena contenido).length
  | .read _ tamanio => aSizeT tamanio.toInt

/-- The memory from contenido on: the text, and what comes after it. -/
def Pedido.memoria (despues : Nat → UInt8) : Pedido → Option (Nat → UInt8)
  | .write _ contenido _ => some fun i => (cadena contenido)[i]?.getD (despues i)
  | .read _ _ => none

/-- executeWrite and executeRead up to acceder_memoria. -/
def ejecutarAcceso (asigna : Nat → Bool) (respuestas : Respuestas) (cfg : ConfigMemoria)
    (n : Nodo Unit) (f : Archivo) (despues : Nat → UInt8) (p : Pedido) : Direcciones :=
  accederDirecciones asigna respuestas cfg n f p.direccionBase.toInt p.bytes (p.memoria despues)

theorem pedido_cabe (ptrdiff : ∀ t, 9223372036854775808 ≤ t → asigna t = false)
    (despues : Nat → UInt8) (p : Pedido) : p.bytes < 9223372036854775808 ∨
      p.memoria despues = none ∧ asigna p.bytes = false := by
  cases p with
  | write direccionBase contenido objeto =>
    exact .inl (lt_of_le_of_lt (List.takeWhile_sublist _).length_le objeto)
  | read direccionBase tamanio =>
    by_cases small : (Pedido.read direccionBase tamanio).bytes < 9223372036854775808
    · exact .inl small
    · exact .inr ⟨rfl, ptrdiff _ (by omega)⟩

/-- The accesses that stay in their frames are the safe ones. -/
theorem accesos_en_sus_marcos_iff (entera : cfg.tamanioMemoria < 2147483648)
    (ptrdiff : ∀ t, 9223372036854775808 ≤ t → asigna t = false) (ord : Ordenada cfg n.mem)
    (dia : LruAlDia cfg n.mem) (f : Archivo) (despues : Nat → UInt8) (p : Pedido) :
    EnSusMarcos respuestas cfg n f p.direccionBase.toInt p.bytes
        (ejecutarAcceso asigna respuestas cfg n f despues p) ↔
      Segura asigna respuestas cfg n f p.direccionBase.toInt p.bytes (p.memoria despues) := by
  have fits := pedido_cabe ptrdiff despues p
  have high : p.direccionBase.toInt < 2147483648 := p.direccionBase.toInt_lt
  exact ⟨segura_of_enSusMarcos entera ord dia fits,
    enSusMarcos_of_segura entera ord dia high fits⟩

/-! Two frames of four bytes; A:1 has one block. -/

def dosDeCuatro : ConfigMemoria := ⟨8, 4, .lru, by decide, by decide⟩

def unBloque : Respuestas := fun k => if k = 0 then some [48, 48, 48, 48] else none

/-- malloc up to PTRDIFF_MAX. -/
def hastaPtrdiff (t : Nat) : Bool := t < 9223372036854775808

def vacio : Nodo Unit := ⟨crearMemoria dosDeCuatro, (), []⟩

theorem accesos_en_sus_marcos_iff_read :
    EnSusMarcos unBloque dosDeCuatro vacio archivoUno 1 2
      (ejecutarAcceso hastaPtrdiff unBloque dosDeCuatro vacio archivoUno (fun _ => 0)
        (.read 1 2)) := by
  refine (accesos_en_sus_marcos_iff (by decide) (fun t ht => ?_)
    (ordenada_crearMemoria dosDeCuatro) (lruAlDia_crearMemoria dosDeCuatro) archivoUno (fun _ => 0)
    (.read 1 2)).mpr (.inr (.inr (.inl ⟨by decide, fun k _ hk => ?_⟩)))
  · exact decide_eq_false (by omega)
  · have here : k = 0 := by
      have size : (Pedido.read 1 2).direccionBase.toInt + (Pedido.read 1 2).bytes = 3 := by decide
      rw [size] at hk
      simp only [dosDeCuatro] at hk
      omega
    subst here
    decide

/-- Two bytes from offset -1 on go to the byte before the frame and to its first one. -/
theorem escritura_antes_de_su_marco :
    ¬ EnSusMarcos unBloque dosDeCuatro vacio archivoUno (-1) 2
      (ejecutarAcceso hastaPtrdiff unBloque dosDeCuatro vacio archivoUno (fun _ => 0)
        (.write (-1) [120, 121] (by decide))) := by
  intro kept
  have copy : (ejecutarAcceso hastaPtrdiff unBloque dosDeCuatro vacio archivoUno (fun _ => 0)
      (.write (-1) [120, 121] (by decide))).turnos.map
      (fun t => (t.marco, t.direccion, t.cuantos)) = [(0, -1, 2)] := by decide
  obtain ⟨t, ht, same⟩ := List.mem_map.mp (copy ▸ List.mem_singleton_self _)
  have low := (kept.copias t ht).arena.1
  simp only [Prod.mk.injEq] at same
  rw [same.1, same.2.1] at low
  contradiction

end WorkerDirecciones
