import MasterOfFiles.Lib.LruStack
import MasterOfFiles.Sistema.EnLinea
import MasterOfFiles.Worker.Recencia

/-!
How often a Worker under LRU asks Storage for a page, against the number of its frames. The
pages of lru_list are those of an LRU stack, so that a Worker with more frames has every page
that one with fewer frames has, in the same order, and never sends more STORAGE_READ_BLOCKs.
-/
namespace WorkerFallos
open StorageEstado StoragePedidos Solicitudes Dialogue LruStack
open WorkerEntradas WorkerRepresentacion WorkerLlamadas WorkerRecencia WorkerEnPaso
open SistemaEnLinea
open WorkerMemoria (ConfigMemoria cadena numPaginaFinal numPaginaInicial)

variable {cfg : ConfigMemoria} {mc : Malloc} {mem mem' : MemoriaInterna} {f : ArchivoTag}
  {k : Nat} {queryId : Int}

theorem nodup_paginasLru (lig : Ligada cfg mem) (dia : LruAlDia mem) :
    (paginasLru mem).Nodup := by
  refine dia.sinRepetir.filterMap fun p q pagina hp hq => ?_
  obtain ⟨f, k⟩ := pagina
  exact lig.unica f k p q (paginaDe_some.mp hp) (paginaDe_some.mp hq)

theorem length_paginasLru (dia : LruAlDia mem) : (paginasLru mem).length = mem.lruList.length := by
  refine List.filterMap_length_eq_length.mpr fun p hp => ?_
  rw [paginaDe, Option.isSome_map]
  exact (dia.todas p).mp hp

def marcoDe (mem : MemoriaInterna) (p : Puntero) : Nat := (mem.heap p).elim 0 EntradaPagina.marco

theorem nodup_marcos (lig : Ligada cfg mem) (dia : LruAlDia mem) :
    (mem.lruList.map (marcoDe mem)).Nodup := by
  refine dia.sinRepetir.map_on fun p hp q hq same => ?_
  obtain ⟨e, he⟩ := Option.isSome_iff_exists.mp ((dia.todas p).mp hp)
  obtain ⟨e', he'⟩ := Option.isSome_iff_exists.mp ((dia.todas q).mp hq)
  simp only [marcoDe, he, he', Option.elim_some] at same
  exact mismo_marco lig he he' same

theorem mem_marcos (lig : Ligada cfg mem) (dia : LruAlDia mem) (m : Nat) :
    m ∈ mem.lruList.map (marcoDe mem) ↔ (mem.marcos m).libre = false := by
  rw [List.mem_map]
  constructor
  · intro listed
    obtain ⟨p, hp, rfl⟩ := listed
    obtain ⟨e, he⟩ := Option.isSome_iff_exists.mp ((dia.todas p).mp hp)
    simpa [marcoDe, he] using ocupado_no_libre lig he
  · intro busy
    obtain ⟨p, e, _, he, frame⟩ := marco_ocupado lig busy
    exact ⟨p, (dia.todas p).mpr (by simp [he]), by simp [marcoDe, he, frame]⟩

theorem hay_libre_iff (rep : Representacion cfg mem) (lru : cfg.algoritmo = .lru) :
    (paginasLru mem).length < cfg.cantidadMarcos ↔ encontrarMarcoLibre cfg mem ≠ none := by
  have dia := rep.lru lru
  have nodup := nodup_marcos rep.ligada dia
  have frames := mem_marcos rep.ligada dia
  rw [length_paginasLru dia, ← List.length_map (marcoDe mem)]
  constructor
  · intro short full
    have inside : List.range cfg.cantidadMarcos ⊆ mem.lruList.map (marcoDe mem) := fun m hm =>
      (frames m).mpr (encontrarMarcoLibre_none full (List.mem_range.mp hm))
    have long := (List.nodup_range.subperm inside).length_le
    rw [List.length_range] at long
    omega
  · intro free
    obtain ⟨m, hm⟩ := Option.ne_none_iff_exists'.mp free
    have range : m ∈ List.range cfg.cantidadMarcos := List.mem_of_find?_eq_some hm
    have libre : (mem.marcos m).libre = true := by simpa using List.find?_some hm
    have inside : mem.lruList.map (marcoDe mem) ⊆ (List.range cfg.cantidadMarcos).erase m := by
      intro m' hm'
      have busy := (frames m').mp hm'
      obtain ⟨_, e, hp, _⟩ := marco_ocupado rep.ligada busy
      have other : m' ≠ m := by
        intro same
        rw [same, libre] at busy
        contradiction
      exact (List.mem_erase_of_ne other).mpr
        (List.mem_range.mpr (rep.ligada.ocupado m' _ hp).1)
    have short := (nodup.subperm inside).length_le
    rw [List.length_erase_of_mem range, List.length_range] at short
    have some_ := List.mem_range.mp range
    omega

theorem marcoParaCargar_room (rep : Representacion cfg mem) (lru : cfg.algoritmo = .lru)
    (queryId : Int) : (marcoParaCargar cfg mem queryId).Ensures fun r =>
      paginasLru r.2 = room cfg.cantidadMarcos (paginasLru mem) := by
  have space := hay_libre_iff rep lru
  unfold marcoParaCargar room
  cases full : encontrarMarcoLibre cfg mem with
  | some m =>
    rw [if_pos (space.mpr (by simp [full]))]
    exact rfl
  | none =>
    rw [if_neg fun short => space.mp short full]
    dsimp only
    rw [lru, Talk.ensures_iff]
    intro r ends
    obtain ⟨pagina, taken⟩ := Talk.ensures_iff.mp (aplicarLru_reemplaza rep lru full queryId) r ends
    rw [taken.sale, List.tail_cons]

theorem paginasLru_registrar (rep : Representacion cfg mem) (lru : cfg.algoritmo = .lru)
    (mc : Malloc) (m : Nat) (f : ArchivoTag) (k : Nat) (bloque : Bytes) :
    paginasLru (registrarPagina cfg mc mem m f k bloque) = paginasLru mem ++ [(f, k)] := by
  have same : ∀ p ∈ mem.lruList, paginaDe (registrarPagina cfg mc mem m f k bloque).heap p =
      paginaDe mem.heap p := by
    intro p hp
    obtain ⟨e, he⟩ := Option.isSome_iff_exists.mp (((rep.lru lru).todas p).mp hp)
    rw [paginaDe, paginaDe, he, heap_registrar_vieja rep.ligada bloque he]
  have list : (registrarPagina cfg mc mem m f k bloque).lruList =
      mem.lruList ++ [mc.direccion mem.heap] := by
    simp [registrarPagina, lru]
  have last : paginaDe (registrarPagina cfg mc mem m f k bloque).heap
      (mc.direccion mem.heap) = some (f, k) := by
    rw [paginaDe, heap_registrar_nueva, Option.map_some]
  rw [paginasLru, list, paginasDe, List.filterMap_append]
  congr 1
  · exact paginasDe_congr same
  · simp [last]

theorem buscarPagina_lru (rep : Representacion cfg mem) (lru : cfg.algoritmo = .lru) :
    ((buscarPagina cfg mem f k).1.isSome = true ↔ (f, k) ∈ paginasLru mem) ∧
      ((f, k) ∈ paginasLru mem → paginasLru (buscarPagina cfg mem f k).2 =
        (paginasLru mem).erase (f, k) ++ [(f, k)]) := by
  have dia := rep.lru lru
  obtain ⟨searched, heap⟩ := buscarPagina_spec cfg mem f k
  have found : (buscarPagina cfg mem f k).1.isSome = true ↔ (f, k) ∈ paginasLru mem := by
    rw [searched, mem_paginasLru dia, Option.isSome_iff_exists]
    exact exists_congr fun p => entradaDe_some rep.ligada
  refine ⟨found, fun loaded => ?_⟩
  obtain ⟨p, hp⟩ := Option.isSome_iff_exists.mp (found.mpr loaded)
  rw [searched] at hp
  have page := (entradaDe_some rep.ligada).mp hp
  have list : (buscarPagina cfg mem f k).2.lruList = mem.lruList.erase p ++ [p] := by
    simp [buscarPagina, hp, lru]
  have listed : p ∈ mem.lruList := by
    obtain ⟨e, he, _⟩ := page
    exact (dia.todas p).mpr (by simp [he])
  -- the entry is at the place of its page
  obtain ⟨antes, despues, split⟩ := List.append_of_mem listed
  have nodup := dia.sinRepetir
  have nodup' := nodup_paginasLru rep.ligada dia
  rw [split] at nodup
  have pages : paginasLru mem =
      paginasDe mem.heap antes ++ (f, k) :: paginasDe mem.heap despues := by
    rw [paginasLru, split, paginasDe, List.filterMap_append,
      List.filterMap_cons_some (paginaDe_some.mpr page)]
    rfl
  rw [pages] at nodup'
  have fresh : p ∉ antes := fun h => (List.disjoint_of_nodup_append nodup) h List.mem_cons_self
  have fresh' : (f, k) ∉ paginasDe mem.heap antes := fun h =>
    (List.disjoint_of_nodup_append nodup') h List.mem_cons_self
  rw [paginasLru, list, heap, pages, split, List.erase_append_right _ fresh,
    List.erase_append_right _ fresh', List.erase_cons_head, List.erase_cons_head]
  simp [paginasDe, paginaDe_some.mpr page]

/-- The STORAGE_READ_BLOCKs up to now, and the pages that Storage gives. -/
@[ext] structure Cuenta where
  lecturas : Nat
  hay : PaginaDe → Bool

def pedidoDeBloque (queryId : Int) (f : ArchivoTag) (k : Nat) : Mensaje :=
  ⟨.storageReadBlock, [.entero queryId, .texto f.file, .texto f.tag, .entero k]⟩

structure Responde (tras : (PaginaDe → Bool) → Mensaje → PaginaDe → Bool) (c : Cuenta)
    (pedido respuesta : Mensaje) (c' : Cuenta) : Prop where
  tipo : EsDelTipo pedido respuesta
  bloque : ∀ queryId f k, pedido = pedidoDeBloque queryId f k →
    ((respuesta.codigo = .storageSendOkReadBlock ∧ (respuesta.bloque 1).isSome = true) ↔
      c.hay (f, k) = true)
  cuenta : c' = ⟨c.lecturas + if pedido.codigo = .storageReadBlock then 1 else 0, tras c.hay pedido⟩

structure Crece (tras : (PaginaDe → Bool) → Mensaje → PaginaDe → Bool) : Prop where
  igual : ∀ hay pedido, pedido.codigo = .storageReadBlock ∨ pedido.codigo = .storageFlush →
    tras hay pedido = hay
  quedan : ∀ hay pedido pagina, hay pagina = true → tras hay pedido pagina = true

variable {tras : (PaginaDe → Bool) → Mensaje → PaginaDe → Bool} {c c' : Cuenta}

def EsFlush (pedido : Mensaje) : Prop := pedido.codigo = .storageFlush

theorem sends_desalojar_flush (victima : Puntero) (e : EntradaPagina) :
    (desalojar cfg mem queryId victima e).Sends EsFlush := by
  unfold desalojar
  split
  · exact ⟨rfl, fun _ => trivial⟩
  · trivial

theorem sends_marcoParaCargar_flush (lru : cfg.algoritmo = .lru) :
    (marcoParaCargar cfg mem queryId).Sends EsFlush := by
  unfold marcoParaCargar
  split
  · trivial
  rw [lru]
  dsimp only
  unfold aplicarLru
  split
  · trivial
  split
  · trivial
  exact Talk.sends_bind (sends_desalojar_flush _ _) (Talk.ensures_ends _) fun _ _ => trivial

theorem cuenta_flush {α : Type} {d : ConStorage α} {a : α} (crece : Crece tras)
    (calls : d.Calls (Responde tras) c a c') (sends : d.Sends EsFlush) : c' = c := by
  refine Talk.Calls.kept (I := fun s => s = c) (fun s q r s' flush made before => ?_) calls sends
    rfl
  rw [made.cuenta, before, crece.igual _ _ (.inr flush), flush]
  rfl

theorem partir {α β : Type} (tamanioBloque : Nat) {d : ConStorage α} {resto : α → ConStorage β}
    {c'' : Cuenta} {b : β} (inStep : EnPaso tamanioBloque d)
    (calls : (d >>= resto).Calls (Responde tras) c b c'') :
    ∃ a c', d.Calls (Responde tras) c a c' ∧ (resto a).Calls (Responde tras) c' b c'' :=
  Talk.Calls.bind_inv (fun _ _ _ _ made => made.tipo) inStep calls

def Dadas (hay : PaginaDe → Bool) (mem : MemoriaInterna) : Prop :=
  ∀ pagina ∈ paginasLru mem, hay pagina = true

/-- Between two instructions, or two accesses: the pages of the list are those of an LRU stack
    after the accesses, and each of its faults was a STORAGE_READ_BLOCK. -/
structure Tras (cfg : ConfigMemoria) (hay : PaginaDe → Bool) (mem : MemoriaInterna) (c : Cuenta)
    (accesos : List (PaginaDe × Bool)) (mem' : MemoriaInterna) (c' : Cuenta) : Prop where
  rep : Representacion cfg mem'
  dadas : Dadas hay mem'
  pila : paginasLru mem' = uses cfg.cantidadMarcos (paginasLru mem) accesos
  cuenta : c' = ⟨c.lecturas + faults cfg.cantidadMarcos (paginasLru mem) accesos, hay⟩

variable {hay : PaginaDe → Bool} {n m : Nat} {bloque : Bytes}

theorem Tras.trans {hay' : PaginaDe → Bool} {mem'' : MemoriaInterna} {c'' : Cuenta}
    {accesos accesos' : List (PaginaDe × Bool)} (first : Tras cfg hay mem c accesos mem' c')
    (second : Tras cfg hay' mem' c' accesos' mem'' c'') :
    Tras cfg hay' mem c (accesos ++ accesos') mem'' c'' := by
  refine ⟨second.rep, second.dadas, ?_, ?_⟩
  · rw [second.pila, first.pila, uses_append]
  · rw [second.cuenta, first.cuenta, faults_append, first.pila, Nat.add_assoc]

theorem tras_nada (rep : Representacion cfg mem) (dadas : Dadas hay mem) :
    Tras cfg hay mem ⟨n, hay⟩ [] mem ⟨n, hay⟩ := ⟨rep, dadas, rfl, rfl⟩

theorem pedirBloqueStorage_cuenta (crece : Crece tras) {bloque : Option Bytes}
    (calls : (pedirBloqueStorage queryId f k).Calls (Responde tras) ⟨n, hay⟩ bloque c') :
    (bloque.isSome = true ↔ hay (f, k) = true) ∧ c' = ⟨n + 1, hay⟩ := by
  cases calls with
  | call _ _ r _ _ s' _ made rest =>
    cases rest
    have given := made.bloque queryId f k rfl
    have count := made.cuenta
    rw [crece.igual _ _ (.inl rfl)] at count
    refine ⟨?_, count⟩
    rw [← given]
    split <;> simp_all

theorem buscarPagina_cargada (lru : cfg.algoritmo = .lru) (rep : Representacion cfg mem)
    (rep' : Representacion cfg (registrarPagina cfg mc mem m f k bloque))
    (fresh : (f, k) ∉ paginasLru mem) :
    paginasLru (buscarPagina cfg (registrarPagina cfg mc mem m f k bloque) f k).2 =
      paginasLru mem ++ [(f, k)] := by
  have list := paginasLru_registrar rep lru mc m f k bloque
  rw [(buscarPagina_lru rep' lru).2 (by simp [list]), list, List.erase_append_right _ fresh]
  simp

theorem obtenerPagina_usa (crece : Crece tras) (lru : cfg.algoritmo = .lru)
    (rep : Representacion cfg mem) (dadas : Dadas hay mem)
    {r : Option Puntero × MemoriaInterna}
    (calls : (obtenerPagina cfg mc mem queryId f k).Calls (Responde tras) ⟨n, hay⟩ r c') :
    Tras cfg hay mem ⟨n, hay⟩ [((f, k), hay (f, k))] r.2 c' ∧
      (∀ p, r.1 = some p → EsPagina r.2 f k p) ∧ (r.1.isSome = true ↔ hay (f, k) = true) := by
  obtain ⟨rep', page⟩ := calls.ensured (obtenerPagina_spec rep queryId f k)
  -- the pages stay given once the stack is known
  suffices h : paginasLru r.2 = use cfg.cantidadMarcos (paginasLru mem) ((f, k), hay (f, k)) ∧
      c' = ⟨n + (if (f, k) ∈ paginasLru mem then 0 else 1), hay⟩ ∧
      (r.1.isSome = true ↔ hay (f, k) = true) by
    obtain ⟨pila, cuenta, found⟩ := h
    refine ⟨⟨rep', fun pagina listed => ?_, pila, ?_⟩, page, found⟩
    · rw [pila] at listed
      rcases mem_use listed with old | ⟨rfl, given⟩
      · exact dadas pagina old
      · exact given
    · rw [faults_singleton]
      exact cuenta
  have hit := buscarPagina_lru (f := f) (k := k) rep lru
  have searched := (buscarPagina_spec cfg mem f k).1
  unfold obtenerPagina at calls
  generalize buscarPagina cfg mem f k = busca at hit searched calls
  obtain ⟨_ | p, mem₁⟩ := busca
  · -- not loaded: a frame, then the block
    have absent : (f, k) ∉ paginasLru mem := fun h => by simpa using hit.1.mpr h
    obtain ⟨carga, c₂, loads, ends⟩ := partir 0 enPaso_cargarPagina calls
    obtain ⟨libre, c₁, makesRoom, asks⟩ := partir 0 enPaso_marcoParaCargar loads
    have same := cuenta_flush crece makesRoom (sends_marcoParaCargar_flush lru)
    obtain ⟨m, found, listo⟩ := makesRoom.ensured (marcoParaCargar_spec rep queryId)
    have space := makesRoom.ensured (marcoParaCargar_room rep lru queryId)
    obtain ⟨marco, mem₂⟩ := libre
    dsimp only at found listo space
    subst same found
    obtain ⟨bloque, c₃, asked, fin⟩ := partir 0 enPaso_pedirBloqueStorage asks
    obtain ⟨given, rfl⟩ := pedirBloqueStorage_cuenta crece asked
    rw [use, if_neg absent, if_neg absent, ← space]
    cases bloque with
    | none =>
      cases fin
      cases ends
      have no : ¬ hay (f, k) = true := fun h => by simpa using given.mpr h
      exact ⟨by rw [if_neg no], rfl, by simpa using no⟩
    | some bloque =>
      cases fin
      cases ends
      have yes := given.mp rfl
      have gone : ∀ p, ¬ EsPagina mem f k p := fun p page =>
        absent ((mem_paginasLru (rep.lru lru)).mpr ⟨p, page⟩)
      have still : ∀ p, ¬ EsPagina mem₂ f k p := by
        intro p page
        obtain ⟨e', he', file, num⟩ := page
        obtain ⟨e, he, same⟩ := listo.viejas p e' he'
        exact gone p ⟨e, he, same.archivo ▸ file, same.numero ▸ num⟩
      have rep₂ : Representacion cfg (registrarPagina cfg mc mem₂ m f k bloque) :=
        representacion_registrar listo.rep listo.rango listo.libre still bloque
      have fresh : (f, k) ∉ paginasLru mem₂ := fun h =>
        absent ((room_suffix _ _).subset (space ▸ h))
      refine ⟨by rw [if_pos yes, buscarPagina_cargada lru listo.rep rep₂ fresh], rfl, ?_⟩
      rw [(buscarPagina_lru rep₂ lru).1, paginasLru_registrar listo.rep lru]
      simp [yes]
  · have loaded := hit.1.mp rfl
    cases calls
    refine ⟨(hit.2 loaded).trans (if_pos loaded).symm, ?_, by simp [dadas _ loaded]⟩
    rw [if_pos loaded]
    rfl

def recorridas (cfg : ConfigMemoria) (hay : PaginaDe → Bool) (f : ArchivoTag) :
    Nat → Nat → Nat → Nat → List (PaginaDe × Bool)
  | 0, _, _, _ => []
  | paginas + 1, actual, despl, restantes =>
    if restantes = 0 then []
    else
      let enPagina := if cfg.tamanioPagina < despl + restantes then cfg.tamanioPagina - despl
        else restantes
      ((f, actual), hay (f, actual)) ::
        if hay (f, actual) then recorridas cfg hay f paginas (actual + 1) 0 (restantes - enPagina)
        else []

def accedidas (cfg : ConfigMemoria) (hay : PaginaDe → Bool) (f : ArchivoTag) (offset tam : Nat) :
    List (PaginaDe × Bool) :=
  if tam = 0 then []
  else
    recorridas cfg hay f (vueltasDe cfg offset tam) (offset / cfg.tamanioPagina)
      (offset % cfg.tamanioPagina) tam

theorem dadas_soloMarcas (marks : SoloMarcas mem mem') (list : mem'.lruList = mem.lruList)
    (dadas : Dadas hay mem) : Dadas hay mem' := by
  unfold Dadas
  rw [paginasLru_soloMarcas marks list]
  exact dadas

theorem Tras.marcas {mem'' : MemoriaInterna} {accesos : List (PaginaDe × Bool)}
    (tras : Tras cfg hay mem c accesos mem' c') (rep : Representacion cfg mem'')
    (marks : SoloMarcas mem' mem'') (list : mem''.lruList = mem'.lruList) :
    Tras cfg hay mem c accesos mem'' c' :=
  ⟨rep, dadas_soloMarcas marks list tras.dadas, (paginasLru_soloMarcas marks list).trans tras.pila,
    tras.cuenta⟩

theorem recorrerPaginas_usa (crece : Crece tras) (lru : cfg.algoritmo = .lru)
    (escritura : Option Bytes) (paginas : Nat) :
    ∀ (actual despl restantes procesados : Nat) (leido : Bytes) (mem : MemoriaInterna) (n : Nat)
      (a : Acceso) (c' : Cuenta), despl ≤ cfg.tamanioPagina → Representacion cfg mem →
      Dadas hay mem →
      (recorrerPaginas cfg mc queryId f escritura paginas actual despl restantes procesados
        leido mem).Calls (Responde tras) ⟨n, hay⟩ a c' →
      Tras cfg hay mem ⟨n, hay⟩ (recorridas cfg hay f paginas actual despl restantes) a.mem c' := by
  induction paginas with
  | zero =>
    intro _ _ _ _ _ mem n a c' _ rep dadas calls
    cases calls
    exact tras_nada rep dadas
  | succ paginas ih =>
    intro actual despl restantes procesados leido mem n a c' inside rep dadas calls
    rw [recorrerPaginas_natural] at calls
    unfold recorridas
    split at calls
    · rename_i zero
      cases calls
      rw [if_pos zero]
      exact tras_nada rep dadas
    rename_i some_
    rw [if_neg some_]
    obtain ⟨r, c₁, first, later⟩ := partir 0 enPaso_obtenerPagina calls
    obtain ⟨one, page, found⟩ := obtenerPagina_usa crece lru rep dadas first
    obtain ⟨entrada, mem'⟩ := r
    dsimp only at one page found later ⊢
    cases entrada with
    | none =>
      have no : ¬ hay (f, actual) = true := fun h => by simpa using found.mpr h
      cases later
      rw [if_neg no]
      exact one
    | some p =>
      obtain ⟨e, he, _⟩ := page p rfl
      rw [if_pos (found.mp rfl)]
      simp only [Option.bind_some, he, Option.map_some] at later
      have marks := soloMarcas_tocarPagina cfg he escritura.isSome
      have touched := representacion_tocarPagina one.rep he escritura.isSome
      have count := one.cuenta
      rw [count] at one later
      cases escritura with
      | none =>
        have seen := one.marcas touched marks rfl
        exact seen.trans (ih _ _ _ _ _ _ _ a c' (Nat.zero_le _) touched seen.dadas later)
      | some contenido =>
        have fits : despl + ((contenido.drop procesados).take
            (if cfg.tamanioPagina < despl + restantes then cfg.tamanioPagina - despl
              else restantes)).length ≤ cfg.tamanioPagina := by
          rw [List.length_take]
          split <;> omega
        have copied := representacion_copiarEnMarco touched e.marco fits
        have written :=
          one.marcas copied ⟨marks.marcos, marks.tablas, marks.antes, marks.despues⟩ rfl
        exact written.trans (ih _ _ _ _ _ _ _ a c' (Nat.zero_le _) copied written.dadas later)

theorem accederMemoria_usa (crece : Crece tras) (lru : cfg.algoritmo = .lru)
    (rep : Representacion cfg mem) (dadas : Dadas hay mem) {offset tam : Nat}
    {escritura : Option Bytes} {a : Acceso}
    (calls : (accederMemoria cfg mc mem queryId f offset tam escritura).Calls (Responde tras)
      ⟨n, hay⟩ a c') : Tras cfg hay mem ⟨n, hay⟩ (accedidas cfg hay f offset tam) a.mem c' := by
  rw [accederMemoria_natural] at calls
  unfold accedidas
  split at calls
  · rename_i zero
    cases calls
    rw [if_pos zero]
    exact tras_nada rep dadas
  · rename_i some_
    rw [if_neg some_]
    have inside := Nat.mod_lt offset cfg.pagina_pos
    exact recorrerPaginas_usa crece lru escritura _ _ _ _ _ _ mem n a c' inside.le rep dadas calls

def pedidoDe (queryId : Int) : Instruccion → Option Mensaje
  | .create f => some ⟨.storageCreateFile, [.entero queryId, .texto f.file, .texto f.tag]⟩
  | .truncate f tamanio => some ⟨.storageTruncate,
    [.entero queryId, .texto f.file, .texto f.tag, .entero tamanio]⟩
  | .tag origen destino => some ⟨.storageTag, [.entero queryId, .texto origen.file,
    .texto origen.tag, .texto destino.file, .texto destino.tag]⟩
  | .commit f => some ⟨.storageCommit, [.entero queryId, .texto f.file, .texto f.tag]⟩
  | .delete f => some ⟨.storageDelete, [.entero queryId, .texto f.file, .texto f.tag]⟩
  | .write _ _ _ | .read _ _ _ | .flush _ => none

def hayTras (tras : (PaginaDe → Bool) → Mensaje → PaginaDe → Bool) (hay : PaginaDe → Bool)
    (queryId : Int) (i : Instruccion) : PaginaDe → Bool :=
  (pedidoDe queryId i).elim hay (tras hay)

def accesosDe (cfg : ConfigMemoria) (hay : PaginaDe → Bool) : Instruccion → List (PaginaDe × Bool)
  | .write f base contenido => accedidas cfg hay f base.toNat (cadena contenido).length
  | .read f base tamanio => accedidas cfg hay f base.toNat tamanio.toNat
  | .create _ | .truncate _ _ | .tag _ _ | .commit _ | .flush _ | .delete _ => []

theorem hayTras_queda (crece : Crece tras) (i : Instruccion) {pagina : PaginaDe}
    (h : hay pagina = true) : hayTras tras hay queryId i pagina = true := by
  unfold hayTras
  cases pedidoDe queryId i with
  | none => exact h
  | some q => exact crece.quedan hay q pagina h

theorem executeFlush_usa (crece : Crece tras) (rep : Representacion cfg mem)
    (dadas : Dadas hay mem) {r : MemoriaInterna × Bool}
    (calls : (executeFlush cfg mem queryId f).Calls (Responde tras) ⟨n, hay⟩ r c') :
    Tras cfg hay mem ⟨n, hay⟩ [] r.1 c' := by
  have sends : (executeFlush cfg mem queryId f).Sends EsFlush := ⟨rfl, fun _ => trivial⟩
  have same := cuenta_flush crece calls sends
  have ends : (executeFlush cfg mem queryId f).Ensures
      fun r => r.1 = (armarFlush cfg mem queryId f).mem := fun _ => rfl
  have sent := calls.ensured ends
  obtain ⟨fields, _⟩ := armarFlush_spec rep.ligada queryId f
  rw [same, sent]
  exact (tras_nada rep dadas).marcas (representacion_armarFlush rep queryId f)
    (soloMarcas_armarFlush rep.ligada queryId f) fields.lru

theorem pedir_usa (crece : Crece tras) (rep : Representacion cfg mem) (dadas : Dadas hay mem)
    {q : Mensaje} (other : q.codigo ≠ .storageReadBlock) (kind : (codigosDe q.codigo).isSome = true)
    {α : Type} {resto : Bool → α} {a : α} (calls :
      (pedir q >>= fun error => Talk.done (resto error)).Calls (Responde tras) ⟨n, hay⟩ a c') :
    (∃ error, a = resto error) ∧ Tras cfg (tras hay q) mem ⟨n, hay⟩ [] mem c' := by
  obtain ⟨error, c₁, asked, ends⟩ := partir 0 (enPaso_pedir kind) calls
  cases ends
  refine ⟨⟨error, rfl⟩, rep, fun pagina h => crece.quedan hay q pagina (dadas pagina h), rfl, ?_⟩
  cases asked with
  | call _ _ r _ _ s' _ made rest =>
    cases rest
    rw [made.cuenta, if_neg other]
    rfl

theorem execute_usa (crece : Crece tras) (lru : cfg.algoritmo = .lru)
    (rep : Representacion cfg mem) (dadas : Dadas hay mem) {i : Instruccion}
    (natural : i.Natural) {r : EstadoWorker}
    (calls : (execute cfg mc mem queryId i).Calls (Responde tras) ⟨n, hay⟩ r c') :
    Tras cfg (hayTras tras hay queryId i) mem ⟨n, hay⟩ (accesosDe cfg hay i) r.mem c' := by
  have alone {q : Mensaje} (other : q.codigo ≠ .storageReadBlock)
      (kind : (codigosDe q.codigo).isSome = true)
      (calls : (pedir q >>= fun error => Talk.done (⟨mem, error, false⟩ : EstadoWorker)).Calls
        (Responde tras) ⟨n, hay⟩ r c') : Tras cfg (tras hay q) mem ⟨n, hay⟩ [] r.mem c' := by
    obtain ⟨⟨error, rfl⟩, done⟩ := pedir_usa crece rep dadas other kind calls
    exact done
  cases i with
  | create f => exact alone (by simp) rfl calls
  | truncate f tamanio => exact alone (by simp) rfl calls
  | tag origen destino => exact alone (by simp) rfl calls
  | delete f => exact alone (by simp) rfl calls
  | flush f =>
    obtain ⟨a, c₁, first, ends⟩ := partir 0 enPaso_executeFlush calls
    cases ends
    exact executeFlush_usa crece rep dadas first
  | write f base contenido =>
    obtain ⟨a, c₁, first, ends⟩ := partir 0 (enPaso_accederMemoria _ _ _) calls
    obtain ⟨base, rfl⟩ := Int.eq_ofNat_of_zero_le natural
    cases ends
    exact accederMemoria_usa crece lru rep dadas first
  | read f base tamanio =>
    obtain ⟨a, c₁, first, ends⟩ := partir 0 (enPaso_accederMemoria _ _ _) calls
    obtain ⟨base, rfl⟩ := Int.eq_ofNat_of_zero_le natural
    cases ends
    exact accederMemoria_usa crece lru rep dadas first
  | commit f =>
    obtain ⟨a, c₁, first, later⟩ := partir 0 enPaso_executeFlush calls
    have flushed := executeFlush_usa crece rep dadas first
    have count := flushed.cuenta
    rw [count] at flushed later
    obtain ⟨⟨error, rfl⟩, done⟩ := pedir_usa crece flushed.rep flushed.dadas (by simp) rfl later
    exact flushed.trans done

def accesosDeTodas (cfg : ConfigMemoria) (tras : (PaginaDe → Bool) → Mensaje → PaginaDe → Bool) :
    (PaginaDe → Bool) → List (Int × Instruccion) → List (PaginaDe × Bool)
  | _, [] => []
  | hay, (queryId, i) :: resto =>
    accesosDe cfg hay i ++ accesosDeTodas cfg tras (hayTras tras hay queryId i) resto

theorem ejecutarTodas_usa (crece : Crece tras) (lru : cfg.algoritmo = .lru)
    {instrucciones : List (Int × Instruccion)} (naturales : ∀ q ∈ instrucciones, q.2.Natural) :
    ∀ (mem : MemoriaInterna) (hay : PaginaDe → Bool) (n : Nat) (r : MemoriaInterna × List Bool)
      (c' : Cuenta), Representacion cfg mem → Dadas hay mem →
      (ejecutarTodas cfg mc mem instrucciones).Calls (Responde tras) ⟨n, hay⟩ r c' →
      ∃ hay', Tras cfg hay' mem ⟨n, hay⟩ (accesosDeTodas cfg tras hay instrucciones) r.1 c' := by
  induction instrucciones with
  | nil =>
    intro mem hay n r c' rep dadas calls
    cases calls
    exact ⟨hay, tras_nada rep dadas⟩
  | cons q resto ih =>
    intro mem hay n r c' rep dadas calls
    obtain ⟨queryId, i⟩ := q
    obtain ⟨natural, naturales⟩ := List.forall_mem_cons.mp naturales
    obtain ⟨a, c₁, first, later⟩ := partir 0 (enPaso_execute i) calls
    have one := execute_usa crece lru rep dadas natural first
    have count := one.cuenta
    rw [count] at one later
    obtain ⟨b, _, rest, ends⟩ := partir discoDeSeis.tamanioBloque
      (enPaso_ejecutarTodas resto _) later
    cases ends
    obtain ⟨hay', more⟩ := ih naturales a.mem _ _ b _ one.rep one.dadas rest
    exact ⟨hay', one.trans more⟩

theorem recorridas_hay (paginas : Nat) : ∀ actual despl restantes,
    ∀ x ∈ recorridas cfg hay f paginas actual despl restantes, x.2 = hay x.1 := by
  induction paginas with
  | zero =>
    intro _ _ _ x hx
    contradiction
  | succ paginas ih =>
    intro actual despl restantes x hx
    unfold recorridas at hx
    split at hx
    · contradiction
    rcases List.mem_cons.mp hx with rfl | hx
    · rfl
    split at hx
    · exact ih _ _ _ x hx
    · contradiction

theorem accesosDe_hay (i : Instruccion) : ∀ x ∈ accesosDe cfg hay i, x.2 = hay x.1 := by
  have pages (f : ArchivoTag) (offset tam : Nat) :
      ∀ x ∈ accedidas cfg hay f offset tam, x.2 = hay x.1 := by
    intro x hx
    unfold accedidas at hx
    split at hx
    · contradiction
    · exact recorridas_hay _ _ _ _ x hx
  cases i with
  | write f base contenido => exact pages f base.toNat _
  | read f base tamanio => exact pages f base.toNat _
  | create | truncate | tag | commit | flush | delete =>
    intro x hx
    contradiction

theorem accesosDeTodas_crecen (crece : Crece tras) (instrucciones : List (Int × Instruccion)) :
    ∀ hay, (∀ x ∈ accesosDeTodas cfg tras hay instrucciones, hay x.1 = true → x.2 = true) ∧
      (accesosDeTodas cfg tras hay instrucciones).Pairwise
        fun x y => x.1 = y.1 → x.2 = true → y.2 = true := by
  induction instrucciones with
  | nil => exact fun _ => ⟨by simp [accesosDeTodas], .nil⟩
  | cons q resto ih =>
    intro hay
    obtain ⟨queryId, i⟩ := q
    obtain ⟨later, pairs⟩ := ih (hayTras tras hay queryId i)
    have now : ∀ x ∈ accesosDe cfg hay i, x.2 = hay x.1 := accesosDe_hay i
    constructor
    · intro x hx given
      rcases List.mem_append.mp hx with hx | hx
      · exact (now x hx).trans given
      · exact later x hx (hayTras_queda crece i given)
    · refine List.pairwise_append.mpr ⟨?_, pairs, fun x hx y hy same given => ?_⟩
      · refine List.pairwise_of_forall_mem_list fun x hx y hy same given => ?_
        rw [now y hy, ← same, ← now x hx, given]
      · rw [now x hx] at given
        exact later y hy (same ▸ hayTras_queda crece i given)

theorem accesosDeTodas_marcos {cfg' : ConfigMemoria}
    (size : cfg'.tamanioPagina = cfg.tamanioPagina) (instrucciones : List (Int × Instruccion)) :
    ∀ hay, accesosDeTodas cfg' tras hay instrucciones =
      accesosDeTodas cfg tras hay instrucciones := by
  have turns (hay : PaginaDe → Bool) (f : ArchivoTag) (paginas : Nat) : ∀ actual despl restantes,
      recorridas cfg' hay f paginas actual despl restantes =
        recorridas cfg hay f paginas actual despl restantes := by
    induction paginas with
    | zero => exact fun _ _ _ => rfl
    | succ paginas ih =>
      intro actual despl restantes
      simp only [recorridas, size, ih]
  have one (hay : PaginaDe → Bool) (i : Instruccion) :
      accesosDe cfg' hay i = accesosDe cfg hay i := by
    cases i <;> simp only [accesosDe, accedidas, vueltasDe, numPaginaInicial, numPaginaFinal, turns,
      size]
  induction instrucciones with
  | nil => exact fun _ => rfl
  | cons q resto ih =>
    intro hay
    simp only [accesosDeTodas, one, ih]

/-- Two Workers under LRU with pages of the same size execute the same instructions, none with a
    negative offset, and Storage gives both the same pages, which come but do not go. The one with
    more memory never sends more STORAGE_READ_BLOCKs, and ends with all the pages of the other,
    those that it has besides being less recent. -/
theorem mas_marcos_menos_lecturas {cfg' : ConfigMemoria} {mc' : Malloc} {c₁ c₂ : Cuenta}
    {r r' : MemoriaInterna × List Bool} (lru : cfg.algoritmo = .lru) (lru' : cfg'.algoritmo = .lru)
    (size : cfg'.tamanioPagina = cfg.tamanioPagina)
    (more : cfg.tamanioMemoria ≤ cfg'.tamanioMemoria)
    (crece : Crece tras) {instrucciones : List (Int × Instruccion)}
    (naturales : ∀ q ∈ instrucciones, q.2.Natural)
    (calls : (ejecutarTodas cfg mc (crearMemoria cfg) instrucciones).Calls (Responde tras)
      ⟨n, hay⟩ r c₁)
    (calls' : (ejecutarTodas cfg' mc' (crearMemoria cfg') instrucciones).Calls (Responde tras)
      ⟨n, hay⟩ r' c₂) :
    c₂.lecturas ≤ c₁.lecturas ∧ paginasLru r.1 <:+ paginasLru r'.1 := by
  have empty (cfg : ConfigMemoria) : Dadas hay (crearMemoria cfg) := fun _ h => by contradiction
  obtain ⟨hay₁, one⟩ := ejecutarTodas_usa crece lru naturales _ _ _ _ _
    (representacion_crearMemoria cfg) (empty cfg) calls
  obtain ⟨hay₂, two⟩ := ejecutarTodas_usa crece lru' naturales _ _ _ _ _
    (representacion_crearMemoria cfg') (empty cfg') calls'
  have frames : cfg.cantidadMarcos ≤ cfg'.cantidadMarcos := by
    unfold ConfigMemoria.cantidadMarcos
    rw [size]
    exact Nat.div_le_div_right more
  have lasting : Lasting [] (accesosDeTodas cfg tras hay instrucciones) :=
    ⟨fun _ _ h => by contradiction, (accesosDeTodas_crecen crece instrucciones hay).2⟩
  obtain ⟨final, fewer⟩ := inclusion frames _ [] [] .nil lasting (List.suffix_refl [])
  rw [two.cuenta, one.cuenta, one.pila, two.pila, accesosDeTodas_marcos size]
  exact ⟨Nat.add_le_add_left fewer n, final⟩

theorem pedidoDeBloque_inj {queryId' : Int} {f' : ArchivoTag} {k' : Nat}
    (same : pedidoDeBloque queryId f k = pedidoDeBloque queryId' f' k') : f = f' ∧ k = k' := by
  simp only [pedidoDeBloque, Mensaje.mk.injEq, List.cons.injEq, Campo.entero.injEq,
    Campo.texto.injEq, Int.natCast_inj, true_and, and_true] at same
  obtain ⟨_, file, tag, number⟩ := same
  cases f
  cases f'
  simp_all

theorem responde_existe (tras : (PaginaDe → Bool) → Mensaje → PaginaDe → Bool) (c : Cuenta)
    (q r : Mensaje) (kind : EsDelTipo q r) :
    ∃ r' c', Responde tras c q r' c' ∧ EsDelTipo q r' := by
  obtain ⟨codigos, known, _⟩ := kind
  have ok : EsDelTipo q ⟨codigos.1, [.bloque []]⟩ := ⟨codigos, known, .inl rfl⟩
  have error : EsDelTipo q ⟨codigos.2, []⟩ := ⟨codigos, known, .inr rfl⟩
  by_cases given : ∃ queryId f k, q = pedidoDeBloque queryId f k ∧ c.hay (f, k) = true
  · obtain ⟨queryId, f, k, rfl, there⟩ := given
    cases known
    refine ⟨_, _, ⟨ok, fun queryId' f' k' same => ?_, rfl⟩, ok⟩
    obtain ⟨rfl, rfl⟩ := pedidoDeBloque_inj same
    simp [there, Mensaje.bloque]
  · refine ⟨_, _, ⟨error, fun queryId f k same => ?_, rfl⟩, error⟩
    have no : ¬ c.hay (f, k) = true := fun there => given ⟨queryId, f, k, same, there⟩
    simp [no, Mensaje.bloque]

def idaYVuelta : List (Int × Instruccion) :=
  [(7, .read aUno 0 1), (7, .read aUno 1 1), (7, .read aUno 0 1)]

theorem mas_marcos_menos_lecturas_aUno : ∃ (mc : Malloc) (r r' : MemoriaInterna × List Bool)
    (c₁ c₂ : Cuenta), (ejecutarTodas unaPagina mc (crearMemoria unaPagina) idaYVuelta).Calls
        (Responde fun hay _ => hay) ⟨0, fun _ => true⟩ r c₁ ∧
      c₁.lecturas = 3 ∧ c₂.lecturas = 2 ∧ c₂.lecturas ≤ c₁.lecturas ∧
      paginasLru r.1 <:+ paginasLru r'.1 := by
  obtain ⟨mc⟩ := hay_malloc
  let tras : (PaginaDe → Bool) → Mensaje → PaginaDe → Bool := fun hay _ => hay
  have crece : Crece tras := ⟨fun _ _ _ => rfl, fun _ _ _ h => h⟩
  have run (cfg : ConfigMemoria) : ∃ r c, (ejecutarTodas cfg mc (crearMemoria cfg) idaYVuelta).Calls
      (Responde tras) ⟨0, fun _ => true⟩ r c := by
    have inStep : EnPaso discoDeSeis.tamanioBloque (ejecutarTodas cfg mc (crearMemoria cfg)
      idaYVuelta) := enPaso_ejecutarTodas idaYVuelta _
    exact Talk.calls_exist (fun q => ⟨_, ⟨true, []⟩, rfl⟩) (responde_existe tras) inStep _
  have naturales : ∀ q ∈ idaYVuelta, q.2.Natural := by
    simp only [idaYVuelta, List.forall_mem_cons]
    exact ⟨le_refl 0, Int.one_nonneg, le_refl 0, by simp⟩
  obtain ⟨r, c₁, calls⟩ := run unaPagina
  obtain ⟨r', c₂, calls'⟩ := run dosPaginas
  have count (cfg : ConfigMemoria) (lru : cfg.algoritmo = .lru) (r c)
      (calls : (ejecutarTodas cfg mc (crearMemoria cfg) idaYVuelta).Calls (Responde tras)
        ⟨0, fun _ => true⟩ r c) := ejecutarTodas_usa crece lru naturales _ _ _ _ _
          (representacion_crearMemoria cfg) (fun _ h => by contradiction) calls
  obtain ⟨_, one⟩ := count unaPagina rfl r c₁ calls
  obtain ⟨_, two⟩ := count dosPaginas rfl r' c₂ calls'
  have size : dosPaginas.tamanioPagina = unaPagina.tamanioPagina := rfl
  obtain ⟨fewer, final⟩ := mas_marcos_menos_lecturas rfl rfl size (by decide) crece naturales
    calls calls'
  exact ⟨mc, r, r', c₁, c₂, calls, one.cuenta ▸ rfl, two.cuenta ▸ rfl, fewer, final⟩

end WorkerFallos
