import MasterOfFiles.Worker.Representacion

/-!
Calls of acceder_memoria and flush_paginas_modificadas, one after the other. The frame for a
page is always found, so that no access goes through a null or a freed pointer, and the
memory keeps its representation invariant as long as no offset is negative. With a negative one
the copy can begin before memory_arena, where malloc put the memory's own fields.
-/
namespace WorkerLlamadas
open StorageEstado Solicitudes Dialogue WorkerEntradas WorkerRepresentacion
open WorkerMemoria (ConfigMemoria)

variable {cfg : ConfigMemoria} {mc : Malloc} {mem mem' : MemoriaInterna} {f g : ArchivoTag}
  {p q : Puntero} {e e' : EntradaPagina} {k m : Nat}

structure MarcoListo (cfg : ConfigMemoria) (mem : MemoriaInterna) (m : Nat)
    (mem' : MemoriaInterna) : Prop where
  rango : m < cfg.cantidadMarcos
  rep : Representacion cfg mem'
  libre : (mem'.marcos m).libre = true
  viejas : ∀ q e', mem'.heap q = some e' → ∃ e, mem.heap q = some e ∧ MismaPagina e e'

theorem ligada_congr (lig : Ligada cfg mem) (heap : mem'.heap = mem.heap)
    (marcos : mem'.marcos = mem.marcos) (tablas : mem'.tablasPaginas = mem.tablasPaginas) :
    Ligada cfg mem' := by
  refine ligada_soloMarcas ⟨marcos, tablas, ?_, ?_⟩ lig
  · intro p e he
    exact ⟨e, heap ▸ he, rfl, rfl, rfl⟩
  · intro p e he
    exact ⟨e, heap ▸ he, rfl, rfl, rfl⟩

theorem encontrarMarcoLibre_none (full : encontrarMarcoLibre cfg mem = none)
    (hm : m < cfg.cantidadMarcos) : (mem.marcos m).libre = false := by
  simpa using List.find?_eq_none.mp full m (List.mem_range.mpr hm)

theorem marco_ocupado (lig : Ligada cfg mem) (busy : (mem.marcos m).libre = false) :
    ∃ p e, (mem.marcos m).entradaPagina = some p ∧ mem.heap p = some e ∧ e.marco = m := by
  have some_ : (mem.marcos m).entradaPagina ≠ none := by
    intro none_
    rw [(lig.libre m).mpr none_] at busy
    contradiction
  obtain ⟨p, hp⟩ := Option.ne_none_iff_exists'.mp some_
  obtain ⟨_, e, he, frame⟩ := lig.ocupado m p hp
  exact ⟨p, e, hp, he, frame⟩

theorem aplicarLru_spec (rep : Representacion cfg mem) (lru : cfg.algoritmo = .lru)
    (full : encontrarMarcoLibre cfg mem = none) (queryId : Int) :
    (aplicarLru cfg mem queryId).Ensures fun r =>
      ∃ m, r.1 = some m ∧ MarcoListo cfg mem m r.2 := by
  have dia := rep.lru lru
  cases list : mem.lruList with
  | nil =>
    obtain ⟨p, e, _, he, _⟩ := marco_ocupado rep.ligada
      (encontrarMarcoLibre_none full (cantidadMarcos_pos cfg))
    have listed := (dia.todas p).mpr (by simp [he])
    rw [list] at listed
    contradiction
  | cons victima resto =>
    obtain ⟨e, he⟩ := Option.isSome_iff_exists.mp ((dia.todas victima).mp (by simp [list]))
    have nodup := dia.sinRepetir
    rw [list] at nodup
    obtain ⟨fresh, nodup⟩ := List.nodup_cons.mp nodup
    have lig : Ligada cfg { mem with lruList := resto } := ligada_congr rep.ligada rfl rfl rfl
    simp only [aplicarLru, list, he]
    refine Talk.ensures_bind (desalojar_desalojada lig queryId he) fun mem' gone => ?_
    refine ⟨e.marco, rfl, (rep.ligada.ocupado _ _ (rep.ligada.entrada _ e he)).1,
      ⟨gone.ligada, fun _ => ⟨?_, ?_⟩, ?_, ?_, gone.arena ▸ rep.paginas⟩, gone.libre,
      gone.viejas⟩
    · rw [gone.lru]
      exact nodup
    · intro q
      rw [gone.lru, gone.quedan]
      have old := dia.todas q
      rw [list, List.mem_cons] at old
      constructor
      · intro listed
        refine ⟨?_, old.mp (.inr listed)⟩
        rintro rfl
        exact fresh listed
      · intro there
        exact (old.mpr there.2).resolve_left there.1
    · intro clock
      rw [lru] at clock
      contradiction
    · rw [gone.puntero]
      exact rep.puntero

theorem vuelta_rango {inicio : Nat} (hm : m ∈ vuelta cfg inicio) : m < cfg.cantidadMarcos := by
  obtain ⟨i, _, rfl⟩ := List.mem_map.mp hm
  exact Nat.mod_lt _ (cantidadMarcos_pos cfg)

theorem vuelta_ne_nil (cfg : ConfigMemoria) (inicio : Nat) : vuelta cfg inicio ≠ [] := by
  have pos := cantidadMarcos_pos cfg
  simp only [vuelta, ne_eq, List.map_eq_nil_iff, List.range_eq_nil]
  omega

theorem segundaVuelta_spec (modificados : Nat → Bool) (turno : List Nat) :
    ∀ referencia : Nat → Bool,
      let r := segundaVuelta modificados referencia turno
      (∀ m, r.1 = some m → m ∈ turno) ∧ (∀ m, r.2 m = true → referencia m = true) ∧
        (r.1 = none → ∀ m ∈ turno, r.2 m = false) := by
  induction turno with
  | nil =>
    intro referencia
    simp [segundaVuelta]
  | cons m resto ih =>
    intro referencia
    unfold segundaVuelta
    split
    · simp
    obtain ⟨inside, lower, cleared⟩ := ih (Function.update referencia m false)
    have below : ∀ m', (segundaVuelta modificados (Function.update referencia m false) resto).2 m' =
        true → m' ≠ m ∧ referencia m' = true := by
      intro m' on
      have before := lower m' on
      by_cases same : m' = m
      · simp [same] at before
      · exact ⟨same, by simpa [same] using before⟩
    refine ⟨?_, ?_, ?_⟩
    · intro m' found
      exact List.mem_cons_of_mem m (inside m' found)
    · intro m' on
      exact (below m' on).2
    · intro none_ m' hm'
      rcases List.mem_cons.mp hm' with rfl | hm'
      · rw [Bool.eq_false_iff]
        intro on
        exact (below _ on).1 rfl
      · exact cleared none_ m' hm'

theorem elegirVictima_spec (cfg : ConfigMemoria) (mem : MemoriaInterna) :
    (∃ m, (elegirVictima cfg mem).1 = some m ∧ m < cfg.cantidadMarcos) ∧
      ∀ m, (elegirVictima cfg mem).2 m = true → mem.bitsReferencia m = true := by
  have second := segundaVuelta_spec mem.bitsModificados (vuelta cfg mem.puntero)
    mem.bitsReferencia
  unfold elegirVictima
  dsimp only at second ⊢
  split
  · rename_i m found
    exact ⟨⟨m, rfl, vuelta_rango (List.mem_of_find?_eq_some found)⟩, fun _ on => on⟩
  generalize segundaVuelta mem.bitsModificados mem.bitsReferencia (vuelta cfg mem.puntero) = r
    at second ⊢
  obtain ⟨victima, referencia⟩ := r
  obtain ⟨inside, lower, cleared⟩ := second
  dsimp only at inside lower cleared
  cases victima with
  | some m => exact ⟨⟨m, rfl, vuelta_rango (inside m rfl)⟩, lower⟩
  | none =>
    dsimp only
    refine ⟨?_, lower⟩
    cases third : (vuelta cfg mem.puntero).find? fun m =>
        !referencia m && !mem.bitsModificados m with
    | some m => exact ⟨m, rfl, vuelta_rango (List.mem_of_find?_eq_some third)⟩
    | none =>
      obtain ⟨m, rest, turn⟩ := List.exists_cons_of_ne_nil (vuelta_ne_nil cfg mem.puntero)
      have here : m ∈ vuelta cfg mem.puntero := by simp [turn]
      have found : ((vuelta cfg mem.puntero).find? fun m => !referencia m).isSome = true :=
        List.find?_isSome.mpr ⟨m, here, by simp [cleared rfl m here]⟩
      obtain ⟨m', hm'⟩ := Option.isSome_iff_exists.mp found
      exact ⟨m', by simp [hm'], vuelta_rango (List.mem_of_find?_eq_some hm')⟩

theorem aplicarClockM_spec (rep : Representacion cfg mem) (clock : cfg.algoritmo = .clockM)
    (full : encontrarMarcoLibre cfg mem = none) (queryId : Int) :
    (aplicarClockM cfg mem queryId).Ensures fun r =>
      ∃ m, r.1 = some m ∧ MarcoListo cfg mem m r.2 := by
  have bits := rep.bits clock
  obtain ⟨⟨victima, chosen, hm⟩, lower⟩ := elegirVictima_spec cfg mem
  have noFree : (vuelta cfg mem.puntero).find? (fun m => (mem.marcos m).libre) = none := by
    rw [List.find?_eq_none]
    intro m hm
    simp [encontrarMarcoLibre_none full (vuelta_rango hm)]
  obtain ⟨p, e, hp, he, rfl⟩ := marco_ocupado rep.ligada (encontrarMarcoLibre_none full hm)
  unfold aplicarClockM
  rw [noFree]
  dsimp only
  generalize elegirVictima cfg mem = r at chosen lower
  obtain ⟨victima, referencia⟩ := r
  dsimp only at chosen lower
  subst chosen
  simp only [hp, he]
  have lig : Ligada cfg { mem with
      bitsReferencia := referencia, puntero := (e.marco + 1) % cfg.cantidadMarcos } :=
    ligada_congr rep.ligada rfl rfl rfl
  have before : BitsAlDia { mem with
      bitsReferencia := referencia, puntero := (e.marco + 1) % cfg.cantidadMarcos } := by
    refine ⟨bits.modificados, fun m free => ⟨?_, (bits.libres m free).2⟩⟩
    rw [Bool.eq_false_iff]
    intro on
    have old := lower m on
    rw [(bits.libres m free).1] at old
    contradiction
  refine Talk.ensures_bind (desalojar_desalojada lig queryId he) fun mem' gone => ?_
  have after : Ligada cfg { mem' with
      bitsReferencia := Function.update mem'.bitsReferencia e.marco false
      bitsModificados := Function.update mem'.bitsModificados e.marco false } :=
    ligada_congr gone.ligada rfl rfl rfl
  refine ⟨e.marco, rfl, hm, ⟨after, fun lru => ?_, fun _ => ⟨?_, ?_⟩, ?_,
    gone.arena ▸ rep.paginas⟩, gone.libre, gone.viejas⟩
  · rw [clock] at lru
    contradiction
  · intro q e' he'
    have busy := ocupado_no_libre gone.ligada he'
    have other : e'.marco ≠ e.marco := by
      intro same
      rw [same, gone.libre] at busy
      contradiction
    dsimp only
    rw [Function.update_of_ne other]
    exact gone.modificados clock before q e' he'
  · intro m free
    dsimp only
    by_cases same : m = e.marco
    · simp [same]
    · rw [Function.update_of_ne same, Function.update_of_ne same]
      exact gone.libres clock before m same free
  · dsimp only
    rw [gone.puntero]
    exact Nat.mod_lt _ (cantidadMarcos_pos cfg)

theorem marcoParaCargar_spec (rep : Representacion cfg mem) (queryId : Int) :
    (marcoParaCargar cfg mem queryId).Ensures fun r =>
      ∃ m, r.1 = some m ∧ MarcoListo cfg mem m r.2 := by
  unfold marcoParaCargar
  cases full : encontrarMarcoLibre cfg mem with
  | some m =>
    refine ⟨m, rfl, ⟨List.mem_range.mp (List.mem_of_find?_eq_some full), rep,
      by simpa using List.find?_some full, ?_⟩⟩
    intro q e he
    exact ⟨e, he, rfl, rfl, rfl⟩
  | none =>
    dsimp only
    cases algorithm : cfg.algoritmo with
    | lru => exact aplicarLru_spec rep algorithm full queryId
    | clockM => exact aplicarClockM_spec rep algorithm full queryId

theorem hay_direccion (lig : Ligada cfg mem) : ∃ p, mem.heap p = none := by
  by_contra full
  rw [not_exists] at full
  have all : ∀ p, ∃ e, mem.heap p = some e := fun p => Option.ne_none_iff_exists'.mp (full p)
  have inside : ∀ p, ((all p).choose).marco < cfg.cantidadMarcos := fun p =>
    (lig.ocupado _ p (lig.entrada p _ (all p).choose_spec)).1
  apply not_injective_infinite_finite fun p : Nat =>
    (⟨((all p).choose).marco, inside p⟩ : Fin cfg.cantidadMarcos)
  intro p q same
  exact mismo_marco lig (all p).choose_spec (all q).choose_spec (Fin.mk.inj same)

theorem heap_registrar (lig : Ligada cfg mem) (free : (mem.marcos m).libre = true)
    {bloque : Bytes} (he : (registrarPagina cfg mc mem m f k bloque).heap q = some e) :
    (q = mc.direccion mem.heap ∧ e = ⟨f, k, m, false⟩) ∨ (mem.heap q = some e ∧ e.marco ≠ m) := by
  by_cases same : q = mc.direccion mem.heap
  · refine .inl ⟨same, ?_⟩
    simpa [registrarPagina, same, eq_comm] using he
  · have old : mem.heap q = some e := by simpa [registrarPagina, same] using he
    refine .inr ⟨old, fun frame => ?_⟩
    have busy := ocupado_no_libre lig old
    rw [frame, free] at busy
    contradiction

theorem heap_registrar_nueva (cfg : ConfigMemoria) (mc : Malloc) (mem : MemoriaInterna)
    (bloque : Bytes) : (registrarPagina cfg mc mem m f k bloque).heap (mc.direccion mem.heap) =
      some ⟨f, k, m, false⟩ := Function.update_self ..

theorem heap_registrar_vieja (lig : Ligada cfg mem) (bloque : Bytes) (he : mem.heap q = some e) :
    (registrarPagina cfg mc mem m f k bloque).heap q = some e := by
  have other : q ≠ mc.direccion mem.heap := by
    rintro rfl
    rw [mc.nueva mem.heap (hay_direccion lig)] at he
    contradiction
  simpa [registrarPagina, other] using he

theorem heap_registrar_clave (lig : Ligada cfg mem) (free : (mem.marcos m).libre = true)
    {bloque : Bytes} {clave : String} : (∃ e',
      (registrarPagina cfg mc mem m f k bloque).heap q = some e' ∧
        claveFileTag e'.archivo = clave) ↔
      q ∈ (mem.tablasPaginas clave).getD [] ∨
        (q = mc.direccion mem.heap ∧ clave = claveFileTag f) := by
  rw [lig.tabla]
  constructor
  · rintro ⟨e', he', key⟩
    rcases heap_registrar lig free he' with ⟨rfl, rfl⟩ | ⟨old, _⟩
    · exact .inr ⟨rfl, key.symm⟩
    · exact .inl ⟨e', old, key⟩
  · rintro (⟨e', he', key⟩ | ⟨rfl, rfl⟩)
    · exact ⟨e', heap_registrar_vieja lig bloque he', key⟩
    · exact ⟨_, heap_registrar_nueva cfg mc mem bloque, rfl⟩

theorem direccion_fuera (lig : Ligada cfg mem) (clave : String) :
    mc.direccion mem.heap ∉ (mem.tablasPaginas clave).getD [] := by
  intro listed
  obtain ⟨e', he', _⟩ := (lig.tabla clave _).mp listed
  rw [mc.nueva mem.heap (hay_direccion lig)] at he'
  contradiction

theorem tablas_registrar (cfg : ConfigMemoria) (mc : Malloc) (mem : MemoriaInterna)
    (bloque : Bytes) (clave : String) :
    (registrarPagina cfg mc mem m f k bloque).tablasPaginas clave =
      if clave = claveFileTag f
      then some ((mem.tablasPaginas clave).getD [] ++ [mc.direccion mem.heap])
      else mem.tablasPaginas clave := by
  by_cases key : clave = claveFileTag f
  · subst key
    simp [registrarPagina]
  · simp [registrarPagina, key]

theorem ligada_registrar (lig : Ligada cfg mem) (hm : m < cfg.cantidadMarcos)
    (free : (mem.marcos m).libre = true) (absent : ∀ p, ¬ EsPagina mem f k p)
    (bloque : Bytes) : Ligada cfg (registrarPagina cfg mc mem m f k bloque) := by
  have nodup : ∀ clave, ((mem.tablasPaginas clave).getD []).Nodup := by
    intro clave
    cases here : mem.tablasPaginas clave with
    | none => exact List.nodup_nil
    | some tabla => exact lig.sinRepetir clave tabla here
  constructor
  · intro m'
    by_cases same : m' = m
    · simp [registrarPagina, same]
    · simpa [registrarPagina, same] using lig.libre m'
  · intro m' q there
    by_cases same : m' = m
    · subst same
      simp only [registrarPagina, Function.update_self, Option.some.injEq] at there
      subst there
      exact ⟨hm, _, heap_registrar_nueva cfg mc mem bloque, rfl⟩
    · obtain ⟨range, e', he', frame⟩ :=
        lig.ocupado m' q (by simpa [registrarPagina, same] using there)
      exact ⟨range, e', heap_registrar_vieja lig bloque he', frame⟩
  · intro q e' he'
    rcases heap_registrar lig free he' with ⟨rfl, rfl⟩ | ⟨old, other⟩
    · simp [registrarPagina]
    · simpa [registrarPagina, other] using lig.entrada q e' old
  · intro clave q
    rw [tablas_registrar, heap_registrar_clave lig free]
    split
    · rename_i key
      simp [key]
    · rename_i key
      simp [key]
  · intro clave tabla here
    rw [tablas_registrar] at here
    split at here
    · cases here
      exact List.Nodup.append (nodup clave) (List.nodup_singleton _)
        (by simpa using direccion_fuera lig clave)
    · exact lig.sinRepetir clave tabla here
  · intro clave tabla here
    rw [tablas_registrar] at here
    split at here
    · cases here
      simp
    · exact lig.noVacia clave tabla here
  · intro g j q q' hq hq'
    obtain ⟨e₁, he₁, file₁, num₁⟩ := hq
    obtain ⟨e₂, he₂, file₂, num₂⟩ := hq'
    rcases heap_registrar lig free he₁ with ⟨rfl, rfl⟩ | ⟨old₁, _⟩ <;>
      rcases heap_registrar lig free he₂ with ⟨rfl, rfl⟩ | ⟨old₂, _⟩
    · rfl
    · exact (absent q' ⟨e₂, old₂, file₂.trans file₁.symm, num₂.trans num₁.symm⟩).elim
    · exact (absent q ⟨e₁, old₁, file₁.trans file₂.symm, num₁.trans num₂.symm⟩).elim
    · exact lig.unica g j q q' ⟨e₁, old₁, file₁, num₁⟩ ⟨e₂, old₂, file₂, num₂⟩

theorem lruAlDia_registrar (lig : Ligada cfg mem) (lru : cfg.algoritmo = .lru)
    (dia : LruAlDia mem) (bloque : Bytes) :
    LruAlDia (registrarPagina cfg mc mem m f k bloque) := by
  have fresh := mc.nueva mem.heap (hay_direccion lig)
  have out : mc.direccion mem.heap ∉ mem.lruList := by
    rw [dia.todas, fresh]
    simp
  constructor
  · simp only [registrarPagina, lru, if_true]
    exact List.Nodup.append dia.sinRepetir (List.nodup_singleton _) (by simpa using out)
  · intro q
    simp only [registrarPagina, lru, if_true, List.mem_append, List.mem_singleton, dia.todas]
    by_cases same : q = mc.direccion mem.heap <;> simp [same]

theorem bitsAlDia_registrar (lig : Ligada cfg mem) (clock : cfg.algoritmo = .clockM)
    (free : (mem.marcos m).libre = true) (bits : BitsAlDia mem) (bloque : Bytes) :
    BitsAlDia (registrarPagina cfg mc mem m f k bloque) := by
  constructor
  · intro q e' he'
    rcases heap_registrar lig free he' with ⟨rfl, rfl⟩ | ⟨old, other⟩
    · simp [registrarPagina, clock]
    · simpa [registrarPagina, clock, other] using bits.modificados q e' old
  · intro m' free'
    by_cases same : m' = m
    · simp [registrarPagina, same] at free'
    · have before := bits.libres m' (by simpa [registrarPagina, same] using free')
      simpa [registrarPagina, clock, same] using before

theorem paginas_registrar (pages : ∀ m, (mem.arena m).length = cfg.tamanioPagina)
    (bloque : Bytes) (m' : Nat) :
    ((registrarPagina cfg mc mem m f k bloque).arena m').length = cfg.tamanioPagina := by
  by_cases same : m' = m
  · have page := pages m
    simp only [registrarPagina, same, Function.update_self, List.length_append,
      List.length_take, List.length_drop]
    omega
  · simpa [registrarPagina, same] using pages m'

theorem representacion_registrar (rep : Representacion cfg mem) (hm : m < cfg.cantidadMarcos)
    (free : (mem.marcos m).libre = true) (absent : ∀ p, ¬ EsPagina mem f k p)
    (bloque : Bytes) : Representacion cfg (registrarPagina cfg mc mem m f k bloque) :=
  ⟨ligada_registrar rep.ligada hm free absent bloque,
    fun lru => lruAlDia_registrar rep.ligada lru (rep.lru lru) bloque,
    fun clock => bitsAlDia_registrar rep.ligada clock free (rep.bits clock) bloque, rep.puntero,
    paginas_registrar rep.paginas bloque⟩

theorem cargarPagina_spec (rep : Representacion cfg mem) (absent : ∀ p, ¬ EsPagina mem f k p)
    (queryId : Int) :
    (cargarPagina cfg mc mem queryId f k).Ensures fun r =>
      Representacion cfg r.2 ∧ (r.1.isSome = true → ∃ p, EsPagina r.2 f k p) := by
  refine Talk.ensures_bind (marcoParaCargar_spec rep queryId) fun r listo => ?_
  obtain ⟨marco, mem'⟩ := r
  obtain ⟨m, rfl, listo⟩ := listo
  dsimp only at listo ⊢
  have any : (pedirBloqueStorage queryId f k).Ensures fun _ => True := fun _ => trivial
  refine Talk.ensures_bind any fun bloque _ => ?_
  cases bloque with
  | none => exact ⟨listo.rep, fun there => by contradiction⟩
  | some bloque =>
    have still : ∀ p, ¬ EsPagina mem' f k p := by
      intro p page
      obtain ⟨e', he', file, num⟩ := page
      obtain ⟨e, he, same⟩ := listo.viejas p e' he'
      exact absent p ⟨e, he, same.archivo ▸ file, same.numero ▸ num⟩
    refine ⟨representacion_registrar listo.rep listo.rango listo.libre still bloque, fun _ => ?_⟩
    exact ⟨_, _, heap_registrar_nueva cfg mc mem' bloque, rfl, rfl⟩

theorem buscarPagina_spec (cfg : ConfigMemoria) (mem : MemoriaInterna) (f : ArchivoTag)
    (k : Nat) : (buscarPagina cfg mem f k).1 = entradaDe mem f k ∧
      (buscarPagina cfg mem f k).2.heap = mem.heap := by
  unfold buscarPagina
  cases entradaDe mem f k with
  | none => exact ⟨rfl, rfl⟩
  | some p =>
    dsimp only
    split <;> exact ⟨rfl, rfl⟩

theorem obtenerPagina_spec (rep : Representacion cfg mem) (queryId : Int) (f : ArchivoTag)
    (k : Nat) : (obtenerPagina cfg mc mem queryId f k).Ensures fun r =>
      Representacion cfg r.2 ∧ ∀ p, r.1 = some p → EsPagina r.2 f k p := by
  have found : ∀ {mem : MemoriaInterna}, Representacion cfg mem → ∀ p,
      (buscarPagina cfg mem f k).1 = some p → EsPagina (buscarPagina cfg mem f k).2 f k p := by
    intro mem rep p hp
    obtain ⟨searched, heap⟩ := buscarPagina_spec cfg mem f k
    rw [searched] at hp
    unfold EsPagina
    rw [heap]
    exact (entradaDe_some rep.ligada).mp hp
  unfold obtenerPagina
  have hit := representacion_buscarPagina rep f k
  have here := found rep
  have searched := (buscarPagina_spec cfg mem f k).1
  generalize buscarPagina cfg mem f k = r at hit here searched
  obtain ⟨_ | p, mem'⟩ := r
  · have absent := (entradaDe_none rep.ligada).mp searched.symm
    refine Talk.ensures_bind (cargarPagina_spec rep absent queryId) fun r loaded => ?_
    obtain ⟨_ | m, mem₁⟩ := r
    · exact ⟨loaded.1, fun p hp => by contradiction⟩
    · exact ⟨representacion_buscarPagina loaded.1 f k, found loaded.1⟩
  · exact ⟨hit, here⟩

theorem soloMarcas_tocarPagina (cfg : ConfigMemoria) (he : mem.heap p = some e)
    (esEscritura : Bool) : SoloMarcas mem (tocarPagina cfg mem p e esEscritura) := by
  refine soloMarcas_map
    (fun q e => { e with modificada := e.modificada || (esEscritura && q == p) })
    (fun _ _ => ⟨rfl, rfl, rfl⟩) rfl rfl fun q => ?_
  cases esEscritura with
  | false => cases h : mem.heap q <;> simp [tocarPagina, h]
  | true =>
    by_cases same : q = p
    · subst same
      simp [tocarPagina, he]
    · have no : (q == p) = false := by simpa using same
      cases h : mem.heap q <;> simp [tocarPagina, same, no, h]

theorem representacion_tocarPagina (rep : Representacion cfg mem) (he : mem.heap p = some e)
    (esEscritura : Bool) : Representacion cfg (tocarPagina cfg mem p e esEscritura) := by
  have lig := rep.ligada
  have marks := soloMarcas_tocarPagina cfg he esEscritura
  refine ⟨ligada_soloMarcas marks lig, fun lru => lruAlDia_soloMarcas marks rfl (rep.lru lru),
    fun clock => ?_, rep.puntero, rep.paginas⟩
  have bits := rep.bits clock
  have busy := ocupado_no_libre lig he
  constructor
  · intro q e' he'
    by_cases same : q = p
    · subst same
      cases esEscritura with
      | false =>
        have old : e = e' := by simpa [tocarPagina, he] using he'
        subst old
        simpa [tocarPagina] using bits.modificados q e he
      | true =>
        have new : { e with modificada := true } = e' := by simpa [tocarPagina] using he'
        subst new
        simp [tocarPagina, clock]
    · have old : mem.heap q = some e' := by
        cases esEscritura <;> simpa [tocarPagina, same] using he'
      have other : e'.marco ≠ e.marco := fun frame => same (mismo_marco lig old he frame)
      cases esEscritura <;>
        simpa [tocarPagina, clock, other] using bits.modificados q e' old
  · intro m free
    have other : m ≠ e.marco := by
      rintro rfl
      rw [show (tocarPagina cfg mem p e esEscritura).marcos = mem.marcos from rfl, busy] at free
      contradiction
    cases esEscritura <;> simpa [tocarPagina, clock, other] using bits.libres m free

theorem representacion_copiarEnMarco (rep : Representacion cfg mem) (m : Nat) {despl : Nat}
    {parcial : Bytes} (fits : despl + parcial.length ≤ cfg.tamanioPagina) :
    Representacion cfg (copiarEnMarco mem m despl parcial) := by
  refine ⟨ligada_congr rep.ligada rfl rfl rfl,
    fun lru => ⟨(rep.lru lru).sinRepetir, (rep.lru lru).todas⟩,
    fun clock => ⟨(rep.bits clock).modificados, (rep.bits clock).libres⟩, rep.puntero, ?_⟩
  intro m'
  by_cases same : m' = m
  · have page := rep.paginas m
    simp only [copiarEnMarco, same, Function.update_self, List.length_append,
      List.length_take, List.length_drop]
    omega
  · simpa [copiarEnMarco, same] using rep.paginas m'

theorem recorrerPaginas_spec (queryId : Int) (f : ArchivoTag) (escritura : Option Bytes)
    (paginas : Nat) : ∀ (paginaActual desplActual restantes procesados : Nat) (leido : Bytes)
      (mem : MemoriaInterna), desplActual ≤ cfg.tamanioPagina → Representacion cfg mem →
      (recorrerPaginas cfg mc queryId f escritura paginas paginaActual desplActual restantes
        procesados leido mem).Ensures fun a => Representacion cfg a.mem ∧ a.fuera = false := by
  induction paginas with
  | zero => exact fun _ _ _ _ _ _ _ rep => ⟨rep, rfl⟩
  | succ paginas ih =>
    intro actual despl restantes procesados leido mem inside rep
    rw [recorrerPaginas_natural]
    split
    · exact ⟨rep, rfl⟩
    refine Talk.ensures_bind (obtenerPagina_spec rep queryId f actual) fun r found => ?_
    obtain ⟨entrada, mem'⟩ := r
    obtain ⟨rep', page⟩ := found
    dsimp only at rep' page ⊢
    split
    · exact ⟨rep', rfl⟩
    rename_i p e there
    have he : mem'.heap p = some e := by
      cases entrada with
      | none => contradiction
      | some q =>
        simp only [Option.bind_some, Option.map_eq_some_iff, Prod.mk.injEq] at there
        obtain ⟨e', he', rfl, rfl⟩ := there
        exact he'
    have touched := representacion_tocarPagina rep' he escritura.isSome
    cases escritura with
    | none => exact ih _ _ _ _ _ _ (Nat.zero_le _) touched
    | some contenido =>
      refine ih _ _ _ _ _ _ (Nat.zero_le _) (representacion_copiarEnMarco touched _ ?_)
      rw [List.length_take]
      split <;> omega

theorem accederMemoria_spec (rep : Representacion cfg mem) (queryId : Int) (f : ArchivoTag)
    {offset : Int} (natural : 0 ≤ offset) (tam : Nat) (escritura : Option Bytes) :
    (accederMemoria cfg mc mem queryId f offset tam escritura).Ensures fun a =>
      Representacion cfg a.mem ∧ a.fuera = false := by
  obtain ⟨offset, rfl⟩ := Int.eq_ofNat_of_zero_le natural
  rw [accederMemoria_natural]
  split
  · exact ⟨rep, rfl⟩
  · have inside := Nat.mod_lt offset cfg.pagina_pos
    exact recorrerPaginas_spec queryId f escritura _ _ _ _ _ _ mem inside.le rep

inductive Llamada where
  | accederMemoria (queryId : Int) (f : ArchivoTag) (offset : Int) (tam : Nat)
      (escritura : Option Bytes)
  | flushPaginasModificadas (queryId : Int) (f : ArchivoTag)

def Llamada.Natural : Llamada → Prop
  | .accederMemoria _ _ offset _ _ => 0 ≤ offset
  | .flushPaginasModificadas _ _ => True

variable (cfg mc) in
def llamar (mem : MemoriaInterna) : Llamada → ConStorage MemoriaInterna
  | .accederMemoria queryId f offset tam escritura => do
    let acceso ← accederMemoria cfg mc mem queryId f offset tam escritura
    .done acceso.mem
  | .flushPaginasModificadas queryId f => flushPaginasModificadas cfg mem queryId f

variable (cfg mc) in
def llamarTodas : MemoriaInterna → List Llamada → ConStorage MemoriaInterna
  | mem, [] => .done mem
  | mem, l :: resto => do
    let mem ← llamar cfg mc mem l
    llamarTodas mem resto

theorem representacion_llamar (rep : Representacion cfg mem) {l : Llamada} (natural : l.Natural) :
    (llamar cfg mc mem l).Ensures (Representacion cfg) := by
  cases l with
  | accederMemoria queryId f offset tam escritura =>
    exact Talk.ensures_bind (accederMemoria_spec rep queryId f natural tam escritura)
      fun _ kept => kept.1
  | flushPaginasModificadas queryId f => exact representacion_armarFlush rep queryId f

/-- Whatever is called and whatever Storage replies, from the memory of a new Worker, if no
    offset is negative. -/
theorem representacion_siempre (cfg : ConfigMemoria) (mc : Malloc) (llamadas : List Llamada)
    (naturales : ∀ l ∈ llamadas, l.Natural) :
    (llamarTodas cfg mc (crearMemoria cfg) llamadas).Ensures (Representacion cfg) := by
  have run : ∀ (llamadas : List Llamada) (mem : MemoriaInterna), (∀ l ∈ llamadas, l.Natural) →
      Representacion cfg mem → (llamarTodas cfg mc mem llamadas).Ensures (Representacion cfg) := by
    intro llamadas
    induction llamadas with
    | nil => exact fun _ _ rep => rep
    | cons l resto ih =>
      intro mem naturales rep
      rw [List.forall_mem_cons] at naturales
      exact Talk.ensures_bind (representacion_llamar rep naturales.1) fun mem rep =>
        ih mem naturales.2 rep
  exact run llamadas _ naturales (representacion_crearMemoria cfg)

theorem a_sinSeparador : ':' ∉ "A".toList := by decide

def aUno : ArchivoTag := ⟨"A", "1", a_sinSeparador⟩

def unaPagina : ConfigMemoria := ⟨1, 1, .lru, Nat.one_pos, Nat.one_pos⟩

def dosEscriturasYFlush : List Llamada :=
  [.accederMemoria 7 aUno 0 2 (some [120, 121]), .flushPaginasModificadas 7 aUno]

theorem representacion_siempre_dosEscrituras :
    (llamarTodas unaPagina (mallocEnOrden fun mem _ _ => mem) (crearMemoria unaPagina)
      dosEscriturasYFlush).Ensures (Representacion unaPagina) :=
  representacion_siempre unaPagina _ dosEscriturasYFlush (by
    simp only [dosEscriturasYFlush, List.forall_mem_cons, Llamada.Natural]
    exact ⟨le_refl 0, trivial, by simp⟩)

/-- calloc puts t_memoria_interna, of 96 bytes, in the 112 before memory_arena: lru_list at -64,
    clock_m, tablas_paginas and socket_storage after it. What is written from -64 on leaves in
    their place what are no pointers to a list and a dictionary. -/
def pisarEstructura (mem : MemoriaInterna) (direccion : Int) (parcial : Bytes) : MemoriaInterna :=
  if direccion ≤ -64 ∧ 64 ≤ parcial.length then
    { mem with lruList := [], tablasPaginas := fun _ => none }
  else mem

def unaPaginaDe128 : ConfigMemoria := ⟨128, 128, .lru, by decide, by decide⟩

def bloqueVacio : Mensaje := ⟨.storageSendOkReadBlock, [.bloque []]⟩

/-- WRITE A:1 -64, of 65 characters. -/
def escrituraAntesDeLaArena : List Llamada :=
  [.accederMemoria 7 aUno (-64) 65 (some (List.replicate 65 120))]

theorem escritura_antes_de_la_arena : ¬ ∀ (cfg : ConfigMemoria) (mc : Malloc)
    (llamadas : List Llamada),
    (llamarTodas cfg mc (crearMemoria cfg) llamadas).Ensures (Representacion cfg) := by
  intro all
  have rep := all unaPaginaDe128 (mallocEnOrden pisarEstructura) escrituraAntesDeLaArena
  have listed := (((Talk.ensures_iff.mp rep _ ⟨bloqueVacio, rfl⟩).lru rfl).todas 0).mpr rfl
  contradiction

end WorkerLlamadas
