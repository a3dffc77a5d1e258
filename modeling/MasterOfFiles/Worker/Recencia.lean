import MasterOfFiles.Lib.Recency
import MasterOfFiles.Worker.Llamadas

/-!
lru_list against the history of the accesses: it lists the loaded pages in the order of their
last access, so that aplicar_lru evicts the page whose last access is the oldest.
-/
namespace WorkerRecencia
open StorageEstado Solicitudes Dialogue WorkerEntradas WorkerRepresentacion WorkerLlamadas
open Recency Relation
open WorkerMemoria (ConfigMemoria)

variable {cfg : ConfigMemoria} {mc : Malloc} {mem mem' : MemoriaInterna} {f g : ArchivoTag}
  {p q : Puntero} {e e' : EntradaPagina} {k m : Nat}

abbrev PaginaDe := ArchivoTag × Nat

def paginaDe (heap : Heap) (p : Puntero) : Option PaginaDe :=
  (heap p).map fun e => (e.archivo, e.numeroPagina)

def paginasDe (heap : Heap) (l : List Puntero) : List PaginaDe := l.filterMap (paginaDe heap)

def paginasLru (mem : MemoriaInterna) : List PaginaDe := paginasDe mem.heap mem.lruList

theorem paginaDe_some : paginaDe mem.heap p = some (f, k) ↔ EsPagina mem f k p := by
  simp only [paginaDe, Option.map_eq_some_iff, Prod.mk.injEq, EsPagina]

theorem mem_paginasLru (dia : LruAlDia mem) :
    (f, k) ∈ paginasLru mem ↔ ∃ p, EsPagina mem f k p := by
  simp only [paginasLru, paginasDe, List.mem_filterMap, paginaDe_some]
  constructor
  · intro listed
    obtain ⟨p, _, page⟩ := listed
    exact ⟨p, page⟩
  · intro loaded
    obtain ⟨p, e, he, page⟩ := loaded
    exact ⟨p, (dia.todas p).mpr (by simp [he]), e, he, page⟩

theorem paginasDe_congr {heap heap' : Heap} {l : List Puntero}
    (same : ∀ p ∈ l, paginaDe heap' p = paginaDe heap p) : paginasDe heap' l = paginasDe heap l :=
  List.filterMap_congr same

def Quedan (mem mem' : MemoriaInterna) : Prop := List.Sublist (paginasLru mem') (paginasLru mem)

theorem quedan_refl (mem : MemoriaInterna) : Quedan mem mem := List.Sublist.refl _

/-- The page that aplicar_lru takes out: the first of the list, whose frame it returns. -/
structure Reemplaza (mem : MemoriaInterna) (pagina : PaginaDe)
    (r : Option Nat × MemoriaInterna) : Prop where
  marco : ∃ p e, mem.heap p = some e ∧ (e.archivo, e.numeroPagina) = pagina ∧
    r.1 = some e.marco ∧ r.2.heap p = none
  sale : paginasLru mem = pagina :: paginasLru r.2

theorem aplicarLru_reemplaza (rep : Representacion cfg mem) (lru : cfg.algoritmo = .lru)
    (full : encontrarMarcoLibre cfg mem = none) (queryId : Int) :
    (aplicarLru cfg mem queryId).Ensures fun r => ∃ pagina, Reemplaza mem pagina r := by
  have dia := rep.lru lru
  cases list : mem.lruList with
  | nil =>
    obtain ⟨p, e, _, he, _⟩ := marco_ocupado rep.ligada
      (encontrarMarcoLibre_none full (cantidadMarcos_pos cfg))
    have listed := (dia.todas p).mpr (by simp [he])
    rw [list] at listed
    contradiction
  | cons victima resto =>
    obtain ⟨e, he⟩ := Option.isSome_iff_exists.mp ((dia.todas victima).mp (by simp [list]))
    have nodup := dia.sinRepetir
    rw [list] at nodup
    obtain ⟨fresh, _⟩ := List.nodup_cons.mp nodup
    have lig : Ligada cfg { mem with lruList := resto } := ligada_congr rep.ligada rfl rfl rfl
    simp only [aplicarLru, list, he]
    refine Talk.ensures_bind (desalojar_desalojada lig queryId he) fun mem' gone => ?_
    have same : ∀ p ∈ resto, paginaDe mem'.heap p = paginaDe mem.heap p := by
      intro p hp
      have other : p ≠ victima := fun same => fresh (same ▸ hp)
      have before : (mem.heap p).isSome = true := (dia.todas p).mp (by simp [list, hp])
      have there := (gone.quedan p).mpr ⟨other, before⟩
      obtain ⟨e', he'⟩ := Option.isSome_iff_exists.mp there
      obtain ⟨e₀, he₀, page⟩ := gone.viejas p e' he'
      dsimp only at he₀
      simp only [paginaDe, he', he₀, Option.map_some, page.archivo, page.numero]
    have freed : mem'.heap victima = none := by
      rw [← Option.not_isSome_iff_eq_none, gone.quedan]
      exact fun there => there.1 rfl
    refine ⟨(e.archivo, e.numeroPagina), ⟨victima, e, he, rfl, rfl, freed⟩, ?_⟩
    have head : paginaDe mem.heap victima = some (e.archivo, e.numeroPagina) := by
      rw [paginaDe, he, Option.map_some]
    show paginasDe mem.heap mem.lruList = _ :: paginasDe mem'.heap mem'.lruList
    rw [gone.lru, paginasDe_congr same, list]
    exact List.filterMap_cons_some head

theorem marcoParaCargar_quedan (rep : Representacion cfg mem) (lru : cfg.algoritmo = .lru)
    (queryId : Int) : (marcoParaCargar cfg mem queryId).Ensures fun r => Quedan mem r.2 := by
  unfold marcoParaCargar
  cases full : encontrarMarcoLibre cfg mem with
  | some m => exact quedan_refl mem
  | none =>
    dsimp only
    rw [lru, Talk.ensures_iff]
    intro r ends
    obtain ⟨pagina, taken⟩ := Talk.ensures_iff.mp (aplicarLru_reemplaza rep lru full queryId) r ends
    rw [Quedan, taken.sale]
    exact List.sublist_cons_self _ _

/-- The page f/k is the last of the list, after some of those that were in it. -/
def AlFinal (mem : MemoriaInterna) (f : ArchivoTag) (k : Nat) (mem' : MemoriaInterna) : Prop :=
  ∃ quedan, List.Sublist quedan (paginasLru mem) ∧ (f, k) ∉ quedan ∧
    paginasLru mem' = quedan ++ [(f, k)]

theorem registrarPagina_alFinal (rep : Representacion cfg mem) (lru : cfg.algoritmo = .lru)
    (absent : ∀ p, ¬ EsPagina mem f k p) (bloque : Bytes) :
    AlFinal mem f k (registrarPagina cfg mc mem m f k bloque) := by
  have dia := rep.lru lru
  have fresh := mc.nueva mem.heap (hay_direccion rep.ligada)
  refine ⟨paginasLru mem, List.Sublist.refl _, ?_, ?_⟩
  · intro listed
    obtain ⟨p, page⟩ := (mem_paginasLru dia).mp listed
    exact absent p page
  have same : ∀ p ∈ mem.lruList, paginaDe (registrarPagina cfg mc mem m f k bloque).heap p =
      paginaDe mem.heap p := by
    intro p hp
    obtain ⟨e, he⟩ := Option.isSome_iff_exists.mp ((dia.todas p).mp hp)
    rw [paginaDe, paginaDe, he, heap_registrar_vieja rep.ligada bloque he]
  have list : (registrarPagina cfg mc mem m f k bloque).lruList =
      mem.lruList ++ [mc.direccion mem.heap] := by
    simp [registrarPagina, lru]
  have last : paginaDe (registrarPagina cfg mc mem m f k bloque).heap
      (mc.direccion mem.heap) = some (f, k) := by
    rw [paginaDe, heap_registrar_nueva, Option.map_some]
  rw [paginasLru, list, paginasDe, List.filterMap_append]
  congr 1
  · exact paginasDe_congr same
  · simp [last]

theorem buscarPagina_alFinal (rep : Representacion cfg mem) (lru : cfg.algoritmo = .lru)
    (found : (buscarPagina cfg mem f k).1 = some p) :
    AlFinal mem f k (buscarPagina cfg mem f k).2 := by
  have dia := rep.lru lru
  have heap := (buscarPagina_spec cfg mem f k).2
  have here : entradaDe mem f k = some p := by
    rw [← (buscarPagina_spec cfg mem f k).1, found]
  have page := (entradaDe_some rep.ligada).mp here
  have list : (buscarPagina cfg mem f k).2.lruList = mem.lruList.erase p ++ [p] := by
    simp [buscarPagina, here, lru]
  refine ⟨paginasDe mem.heap (mem.lruList.erase p), List.erase_sublist.filterMap _, ?_, ?_⟩
  · intro listed
    obtain ⟨q, hq, other⟩ := List.mem_filterMap.mp listed
    have same := rep.ligada.unica f k q p (paginaDe_some.mp other) page
    rw [same, dia.sinRepetir.mem_erase_iff] at hq
    exact hq.1 rfl
  · rw [paginasLru, list, heap, paginasDe, List.filterMap_append]
    congr 1
    simp [paginaDe_some.mpr page]

theorem AlFinal.trans {mem'' : MemoriaInterna} (first : AlFinal mem f k mem')
    (second : AlFinal mem' f k mem'') : AlFinal mem f k mem'' := by
  obtain ⟨quedan, part, _, list⟩ := first
  obtain ⟨quedan', part', fresh, list'⟩ := second
  refine ⟨quedan', ?_, fresh, list'⟩
  rw [list] at part'
  obtain ⟨l₁, l₂, rfl, inside, last⟩ := List.sublist_append_iff.mp part'
  -- the page itself is not in what is left before it
  have empty : l₂ = [] := by
    refine List.eq_nil_iff_forall_not_mem.mpr fun a ha => fresh ?_
    have same := List.mem_singleton.mp (last.subset ha)
    exact List.mem_append_right l₁ (same ▸ ha)
  rw [empty, List.append_nil]
  exact inside.trans part

theorem cargarPagina_lru (rep : Representacion cfg mem) (lru : cfg.algoritmo = .lru)
    (absent : ∀ p, ¬ EsPagina mem f k p) (queryId : Int) :
    (cargarPagina cfg mc mem queryId f k).Ensures fun r =>
      (r.1 = none → Quedan mem r.2) ∧ (r.1.isSome = true → AlFinal mem f k r.2) := by
  have frame := Talk.ensures_and (marcoParaCargar_spec rep queryId)
    (marcoParaCargar_quedan rep lru queryId)
  refine Talk.ensures_bind frame fun r ready => ?_
  obtain ⟨marco, mem'⟩ := r
  obtain ⟨⟨m, rfl, listo⟩, stay⟩ := ready
  dsimp only at listo stay ⊢
  have any : (pedirBloqueStorage queryId f k).Ensures fun _ => True := fun _ => trivial
  refine Talk.ensures_bind any fun bloque _ => ?_
  cases bloque with
  | none => exact ⟨fun _ => stay, fun some_ => by contradiction⟩
  | some bloque =>
    refine ⟨fun none_ => by contradiction, fun _ => ?_⟩
    have still : ∀ p, ¬ EsPagina mem' f k p := by
      intro p page
      obtain ⟨e', he', file, num⟩ := page
      obtain ⟨e, he, same⟩ := listo.viejas p e' he'
      exact absent p ⟨e, he, same.archivo ▸ file, same.numero ▸ num⟩
    have last : AlFinal mem' f k (registrarPagina cfg mc mem' m f k bloque) :=
      registrarPagina_alFinal listo.rep lru still bloque
    obtain ⟨quedan, part, fresh, list⟩ := last
    exact ⟨quedan, part.trans stay, fresh, list⟩

theorem obtenerPagina_lru (rep : Representacion cfg mem) (lru : cfg.algoritmo = .lru)
    (queryId : Int) (f : ArchivoTag) (k : Nat) :
    (obtenerPagina cfg mc mem queryId f k).Ensures fun r =>
      (r.1 = none → Quedan mem r.2) ∧ (r.1.isSome = true → AlFinal mem f k r.2) := by
  unfold obtenerPagina
  have hit := fun p => buscarPagina_alFinal (f := f) (k := k) (p := p) rep lru
  have searched := (buscarPagina_spec cfg mem f k).1
  generalize buscarPagina cfg mem f k = r at hit searched
  obtain ⟨_ | p, mem'⟩ := r
  · have absent := (entradaDe_none rep.ligada).mp searched.symm
    refine Talk.ensures_bind (Talk.ensures_and (cargarPagina_spec rep absent queryId)
      (cargarPagina_lru rep lru absent queryId)) fun r loaded => ?_
    obtain ⟨_ | m, mem₁⟩ := r
    · exact ⟨fun _ => loaded.2.1 rfl, fun some_ => by contradiction⟩
    · obtain ⟨⟨rep₁, there⟩, _, moved⟩ := loaded
      obtain ⟨q, page⟩ := there rfl
      have again : (buscarPagina cfg mem₁ f k).1 = some q := by
        rw [(buscarPagina_spec cfg mem₁ f k).1, (entradaDe_some rep₁.ligada).mpr page]
      have last := (moved rfl).trans (buscarPagina_alFinal rep₁ lru again)
      refine ⟨fun none_ => ?_, fun _ => last⟩
      rw [again] at none_
      contradiction
  · exact ⟨fun none_ => by contradiction, fun _ => hit p rfl⟩

abbrev Vista := MemoriaInterna × List PaginaDe

/-- What happens under LRU: accesses to a page that is there or is loaded, loads that Storage
    rejects, and flushes, with whatever replies. -/
inductive PasoLru (cfg : ConfigMemoria) (mc : Malloc) : Vista → Vista → Prop
  | leer {mem mem' : MemoriaInterna} {historia : List PaginaDe} {f : ArchivoTag} {k : Nat}
      {p : Puntero} {e : EntradaPagina} (queryId : Int)
      (hay : (obtenerPagina cfg mc mem queryId f k).Ends (some p, mem'))
      (he : mem'.heap p = some e) :
      PasoLru cfg mc (mem, historia) (tocarPagina cfg mem' p e false, historia ++ [(f, k)])
  | escribir {mem mem' : MemoriaInterna} {historia : List PaginaDe} {f : ArchivoTag} {k : Nat}
      {p : Puntero} {e : EntradaPagina} (queryId : Int) (despl : Nat) (parcial : Bytes)
      (hay : (obtenerPagina cfg mc mem queryId f k).Ends (some p, mem'))
      (he : mem'.heap p = some e) (fits : despl + parcial.length ≤ cfg.tamanioPagina) :
      PasoLru cfg mc (mem, historia)
        (copiarEnMarco (tocarPagina cfg mem' p e true) e.marco despl parcial,
          historia ++ [(f, k)])
  | rechazo {mem mem' : MemoriaInterna} {historia : List PaginaDe} (queryId : Int)
      (f : ArchivoTag) (k : Nat)
      (rechazada : (obtenerPagina cfg mc mem queryId f k).Ends (none, mem')) :
      PasoLru cfg mc (mem, historia) (mem', historia)
  | flush {mem mem' : MemoriaInterna} {historia : List PaginaDe} (queryId : Int)
      (f : ArchivoTag) (sent : (flushPaginasModificadas cfg mem queryId f).Ends mem') :
      PasoLru cfg mc (mem, historia) (mem', historia)

structure EnOrden (cfg : ConfigMemoria) (v : Vista) : Prop where
  rep : Representacion cfg v.1
  orden : InOrder v.2 (paginasLru v.1)

variable {v v' : Vista}

theorem paginasLru_soloMarcas (marks : SoloMarcas mem mem') (list : mem'.lruList = mem.lruList) :
    paginasLru mem' = paginasLru mem := by
  have same : paginaDe mem'.heap = paginaDe mem.heap := by
    funext p
    apply Option.ext
    intro pagina
    obtain ⟨f, k⟩ := pagina
    rw [paginaDe_some, paginaDe_some, esPagina_soloMarcas marks]
  rw [paginasLru, paginasLru, paginasDe, paginasDe, list, same]

theorem inOrder_alFinal {historia : List PaginaDe} (orden : InOrder historia (paginasLru mem))
    (last : AlFinal mem f k mem') : InOrder (historia ++ [(f, k)]) (paginasLru mem') := by
  obtain ⟨quedan, part, fresh, list⟩ := last
  rw [list]
  exact (orden.sublist part).use fresh

theorem enOrden_paso (lru : cfg.algoritmo = .lru) (ord : EnOrden cfg v)
    (paso : PasoLru cfg mc v v') : EnOrden cfg v' := by
  obtain ⟨rep, orden⟩ := ord
  cases paso with
  | leer queryId hay he =>
    have kept := Talk.ensures_iff.mp (obtenerPagina_spec rep queryId _ _) _ hay
    have last := (Talk.ensures_iff.mp (obtenerPagina_lru rep lru queryId _ _) _ hay).2 rfl
    refine ⟨representacion_tocarPagina kept.1 he false, ?_⟩
    have marks := soloMarcas_tocarPagina cfg he false
    dsimp only
    rw [paginasLru_soloMarcas marks rfl]
    exact inOrder_alFinal orden last
  | escribir queryId despl parcial hay he fits =>
    have kept := Talk.ensures_iff.mp (obtenerPagina_spec rep queryId _ _) _ hay
    have last := (Talk.ensures_iff.mp (obtenerPagina_lru rep lru queryId _ _) _ hay).2 rfl
    refine ⟨representacion_copiarEnMarco (representacion_tocarPagina kept.1 he true) _ fits, ?_⟩
    have marks := soloMarcas_tocarPagina cfg he true
    show InOrder _ (paginasLru (tocarPagina cfg _ _ _ true))
    rw [paginasLru_soloMarcas marks rfl]
    exact inOrder_alFinal orden last
  | rechazo queryId f k rechazada =>
    have kept := Talk.ensures_iff.mp (obtenerPagina_spec rep queryId f k) _ rechazada
    have stay := (Talk.ensures_iff.mp (obtenerPagina_lru rep lru queryId f k) _ rechazada).1 rfl
    exact ⟨kept.1, orden.sublist stay⟩
  | flush queryId f sent =>
    cases sent
    refine ⟨representacion_armarFlush rep queryId f, ?_⟩
    obtain ⟨fields, _⟩ := armarFlush_spec rep.ligada queryId f
    dsimp only
    rw [paginasLru_soloMarcas (soloMarcas_armarFlush rep.ligada queryId f) fields.lru]
    exact orden

theorem enOrden_siempre (lru : cfg.algoritmo = .lru)
    (run : ReflTransGen (PasoLru cfg mc) (crearMemoria cfg, []) v) : EnOrden cfg v := by
  induction run with
  | refl => exact ⟨representacion_crearMemoria cfg, inOrder_nil []⟩
  | tail _ paso ih => exact enOrden_paso lru ih paso

theorem recorrerPaginas_pasos (queryId : Int) (f : ArchivoTag) (escritura : Option Bytes)
    (paginas : Nat) : ∀ (actual despl restantes procesados : Nat) (leido : Bytes)
      (mem : MemoriaInterna) (historia : List PaginaDe), despl ≤ cfg.tamanioPagina →
      Representacion cfg mem →
      (recorrerPaginas cfg mc queryId f escritura paginas actual despl restantes procesados
        leido mem).Ensures fun a => ∃ historia',
          ReflTransGen (PasoLru cfg mc) (mem, historia) (a.mem, historia') := by
  induction paginas with
  | zero => exact fun _ _ _ _ _ _ historia _ _ => ⟨historia, .refl⟩
  | succ paginas ih =>
    intro actual despl restantes procesados leido mem historia inside rep
    rw [recorrerPaginas_natural]
    split
    · exact ⟨historia, .refl⟩
    refine Talk.ensures_bind (Talk.ensures_and (obtenerPagina_spec rep queryId f actual)
      (Talk.ensures_ends _)) fun r found => ?_
    obtain ⟨entrada, mem'⟩ := r
    obtain ⟨⟨rep', page⟩, ends⟩ := found
    dsimp only at rep' page ends ⊢
    cases entrada with
    | none => exact ⟨historia, .single (.rechazo queryId f actual ends)⟩
    | some p =>
      obtain ⟨e, he, _⟩ := page p rfl
      simp only [Option.bind_some, he, Option.map_some]
      have touched := representacion_tocarPagina rep' he escritura.isSome
      cases escritura with
      | none =>
        have paso : PasoLru cfg mc (mem, historia) _ := .leer queryId ends he
        refine Talk.ensures_iff.mpr fun a fin => ?_
        obtain ⟨historia', run⟩ :=
          Talk.ensures_iff.mp (ih _ _ _ _ _ _ _ (Nat.zero_le _) touched) a fin
        exact ⟨historia', run.head paso⟩
      | some contenido =>
        have fits : despl + ((contenido.drop procesados).take
            (if cfg.tamanioPagina < despl + restantes then cfg.tamanioPagina - despl
              else restantes)).length ≤ cfg.tamanioPagina := by
          rw [List.length_take]
          split <;> omega
        have paso : PasoLru cfg mc (mem, historia) _ := .escribir queryId despl _ ends he fits
        refine Talk.ensures_iff.mpr fun a fin => ?_
        obtain ⟨historia', run⟩ := Talk.ensures_iff.mp (ih _ _ _ _ _ _ _ (Nat.zero_le _)
          (representacion_copiarEnMarco touched _ fits)) a fin
        exact ⟨historia', run.head paso⟩

theorem llamar_pasos (rep : Representacion cfg mem) {l : Llamada} (natural : l.Natural)
    (historia : List PaginaDe) :
    (llamar cfg mc mem l).Ensures fun mem' => ∃ historia',
      ReflTransGen (PasoLru cfg mc) (mem, historia) (mem', historia') := by
  cases l with
  | accederMemoria queryId f offset tam escritura =>
    refine Talk.ensures_bind (P := fun a : Acceso => ∃ historia',
      ReflTransGen (PasoLru cfg mc) (mem, historia) (a.mem, historia')) ?_ fun _ run => run
    obtain ⟨offset, rfl⟩ := Int.eq_ofNat_of_zero_le natural
    rw [accederMemoria_natural]
    split
    · exact ⟨historia, .refl⟩
    · have inside := Nat.mod_lt offset cfg.pagina_pos
      exact recorrerPaginas_pasos queryId f escritura _ _ _ _ _ _ mem historia inside.le rep
  | flushPaginasModificadas queryId f => exact ⟨historia, .single (.flush queryId f rfl)⟩

theorem llamarTodas_pasos {llamadas : List Llamada} (naturales : ∀ l ∈ llamadas, l.Natural) :
    ∀ (mem : MemoriaInterna) (historia : List PaginaDe), Representacion cfg mem →
      (llamarTodas cfg mc mem llamadas).Ensures fun mem' => ∃ historia',
        ReflTransGen (PasoLru cfg mc) (mem, historia) (mem', historia') := by
  induction llamadas with
  | nil => exact fun mem historia _ => ⟨historia, .refl⟩
  | cons l resto ih =>
    intro mem historia rep
    rw [List.forall_mem_cons] at naturales
    refine Talk.ensures_bind (Talk.ensures_and (representacion_llamar rep naturales.1)
      (llamar_pasos rep naturales.1 historia)) fun mem₁ first => ?_
    obtain ⟨rep₁, historia₁, run⟩ := first
    refine Talk.ensures_iff.mpr fun mem' fin => ?_
    obtain ⟨historia', later⟩ := Talk.ensures_iff.mp (ih naturales.2 mem₁ historia₁ rep₁) mem' fin
    exact ⟨historia', run.trans later⟩

theorem lru_en_orden (lru : cfg.algoritmo = .lru) {llamadas : List Llamada}
    (naturales : ∀ l ∈ llamadas, l.Natural) :
    (llamarTodas cfg mc (crearMemoria cfg) llamadas).Ensures fun mem =>
      ∃ historia, InOrder historia (paginasLru mem) := by
  refine Talk.ensures_iff.mpr fun mem fin => ?_
  obtain ⟨historia, run⟩ := Talk.ensures_iff.mp
    (llamarTodas_pasos naturales _ [] (representacion_crearMemoria cfg)) mem fin
  exact ⟨historia, (enOrden_siempre lru run).orden⟩

/-- When no frame is free, the page whose last access is the oldest goes out; lru_list has the
    loaded pages in the order of their last accesses. -/
theorem lru_desaloja_la_menos_reciente {historia : List PaginaDe} (lru : cfg.algoritmo = .lru)
    (run : ReflTransGen (PasoLru cfg mc) (crearMemoria cfg, []) (mem, historia)) :
    InOrder historia (paginasLru mem) ∧
      (∀ f k, (f, k) ∈ paginasLru mem ↔ ∃ p, EsPagina mem f k p) ∧
      (encontrarMarcoLibre cfg mem = none → ∀ queryId,
        (aplicarLru cfg mem queryId).Ensures fun r => ∃ victima, Reemplaza mem victima r ∧
          ∀ otra ∈ paginasLru mem, otra ≠ victima →
            lastUse historia victima < lastUse historia otra) := by
  obtain ⟨rep, orden⟩ := enOrden_siempre lru run
  refine ⟨orden, fun f k => mem_paginasLru (rep.lru lru), fun full queryId => ?_⟩
  rw [Talk.ensures_iff]
  intro r ends
  obtain ⟨victima, taken⟩ := Talk.ensures_iff.mp (aplicarLru_reemplaza rep lru full queryId) r ends
  refine ⟨victima, taken, fun otra loaded other => ?_⟩
  dsimp only at orden
  rw [taken.sale] at orden loaded
  exact orden.head_least ((List.mem_cons.mp loaded).resolve_left other)

def bloqueA : Mensaje := ⟨.storageSendOkReadBlock, [.bloque [65]]⟩

def dosPaginas : ConfigMemoria := ⟨2, 1, .lru, Nat.one_pos, by decide⟩

/-- Pages 0 and 1 of A:1 are loaded and page 0 is read again: page 1 goes out. -/
theorem lru_desaloja_la_menos_reciente_conAcierto : ∃ mem : MemoriaInterna,
    paginasLru mem = [(aUno, 1), (aUno, 0)] ∧ encontrarMarcoLibre dosPaginas mem = none ∧
      (InOrder [(aUno, 0), (aUno, 1), (aUno, 0)] (paginasLru mem) ∧
      (∀ f k, (f, k) ∈ paginasLru mem ↔ ∃ p, EsPagina mem f k p) ∧
      (encontrarMarcoLibre dosPaginas mem = none → ∀ queryId,
        (aplicarLru dosPaginas mem queryId).Ensures fun r => ∃ victima, Reemplaza mem victima r ∧
          ∀ otra ∈ paginasLru mem, otra ≠ victima →
            lastUse [(aUno, 0), (aUno, 1), (aUno, 0)] victima <
              lastUse [(aUno, 0), (aUno, 1), (aUno, 0)] otra)) := by
  let mc := mallocEnOrden fun mem _ _ => mem
  obtain ⟨mem₁, p₁, e₁, load₀, he₁, mem₂, p₂, e₂, load₁, he₂, mem₃, p₃, e₃, hit, he₃, pages, full⟩ :
      ∃ mem₁ p₁ e₁, ∃ _ : (obtenerPagina dosPaginas mc (crearMemoria dosPaginas) 7 aUno 0).Ends
          (some p₁, mem₁), ∃ _ : mem₁.heap p₁ = some e₁,
        ∃ mem₂ p₂ e₂, ∃ _ : (obtenerPagina dosPaginas mc (tocarPagina dosPaginas mem₁ p₁ e₁ false) 7
          aUno 1).Ends (some p₂, mem₂), ∃ _ : mem₂.heap p₂ = some e₂,
        ∃ mem₃ p₃ e₃, ∃ _ : (obtenerPagina dosPaginas mc (tocarPagina dosPaginas mem₂ p₂ e₂ false) 7
          aUno 0).Ends (some p₃, mem₃), ∃ _ : mem₃.heap p₃ = some e₃,
        paginasLru (tocarPagina dosPaginas mem₃ p₃ e₃ false) = [(aUno, 1), (aUno, 0)] ∧
          encontrarMarcoLibre dosPaginas (tocarPagina dosPaginas mem₃ p₃ e₃ false) = none :=
    ⟨_, _, _, ⟨bloqueA, rfl⟩, rfl, _, _, _, ⟨bloqueA, rfl⟩, rfl, _, _, _, rfl, rfl, rfl, rfl⟩
  have run : ReflTransGen (PasoLru dosPaginas mc) (crearMemoria dosPaginas, [])
      (tocarPagina dosPaginas mem₃ p₃ e₃ false, [(aUno, 0), (aUno, 1), (aUno, 0)]) :=
    .tail (.tail (.single (.leer 7 load₀ he₁)) (.leer 7 load₁ he₂)) (.leer 7 hit he₃)
  exact ⟨_, pages, full, lru_desaloja_la_menos_reciente rfl run⟩

end WorkerRecencia
