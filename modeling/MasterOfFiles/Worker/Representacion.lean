import Mathlib.Data.Fintype.EquivFin
import MasterOfFiles.Worker.Entradas

/-!
Representation invariant of the Worker's memory: frames, entries, page tables, the LRU list and
the bits of the clock tell the same. Each function of memoria.c keeps it, whatever Storage
replies on the way.
-/
namespace WorkerRepresentacion
open StorageEstado Solicitudes Dialogue WorkerEntradas
open WorkerMemoria (ConfigMemoria clave_partes)

variable {cfg : ConfigMemoria} {mc : Malloc} {mem mem' : MemoriaInterna} {f g : ArchivoTag}
  {p q : Puntero} {e e' : EntradaPagina} {k m : Nat}

theorem claveFileTag_inj (h : claveFileTag f = claveFileTag g) : f = g := by
  obtain ⟨files, tags⟩ := clave_partes f.sinSeparador g.sinSeparador h
  cases f
  cases g
  simp_all

def EsPagina (mem : MemoriaInterna) (f : ArchivoTag) (k : Nat) (p : Puntero) : Prop :=
  ∃ e, mem.heap p = some e ∧ e.archivo = f ∧ e.numeroPagina = k

/-- Frames and tables point to the entries that are allocated, and to all of them. -/
structure Ligada (cfg : ConfigMemoria) (mem : MemoriaInterna) : Prop where
  libre : ∀ m, (mem.marcos m).libre = true ↔ (mem.marcos m).entradaPagina = none
  ocupado : ∀ m p, (mem.marcos m).entradaPagina = some p →
    m < cfg.cantidadMarcos ∧ ∃ e, mem.heap p = some e ∧ e.marco = m
  entrada : ∀ p e, mem.heap p = some e → (mem.marcos e.marco).entradaPagina = some p
  tabla : ∀ clave p, p ∈ (mem.tablasPaginas clave).getD [] ↔
    ∃ e, mem.heap p = some e ∧ claveFileTag e.archivo = clave
  sinRepetir : ∀ clave tabla, mem.tablasPaginas clave = some tabla → tabla.Nodup
  noVacia : ∀ clave tabla, mem.tablasPaginas clave = some tabla → tabla ≠ []
  unica : ∀ f k p q, EsPagina mem f k p → EsPagina mem f k q → p = q

/-- lru_list is a permutation of the entries: each of them once. -/
structure LruAlDia (mem : MemoriaInterna) : Prop where
  sinRepetir : mem.lruList.Nodup
  todas : ∀ p, p ∈ mem.lruList ↔ (mem.heap p).isSome = true

/-- The bits of the clock are those of the entries, and none is set for a free frame. -/
structure BitsAlDia (mem : MemoriaInterna) : Prop where
  modificados : ∀ p e, mem.heap p = some e → mem.bitsModificados e.marco = e.modificada
  libres : ∀ m, (mem.marcos m).libre = true →
    mem.bitsReferencia m = false ∧ mem.bitsModificados m = false

structure Representacion (cfg : ConfigMemoria) (mem : MemoriaInterna) : Prop where
  ligada : Ligada cfg mem
  lru : cfg.algoritmo = .lru → LruAlDia mem
  bits : cfg.algoritmo = .clockM → BitsAlDia mem
  puntero : mem.puntero < cfg.cantidadMarcos
  paginas : ∀ m, (mem.arena m).length = cfg.tamanioPagina

theorem cantidadMarcos_pos (cfg : ConfigMemoria) : 0 < cfg.cantidadMarcos :=
  Nat.div_pos cfg.un_marco cfg.pagina_pos

theorem representacion_crearMemoria (cfg : ConfigMemoria) :
    Representacion cfg (crearMemoria cfg) := by
  constructor
  · constructor <;> simp [crearMemoria, EsPagina]
  · intro _
    constructor <;> simp [crearMemoria]
  · intro _
    constructor <;> simp [crearMemoria]
  · exact cantidadMarcos_pos cfg
  · simp [crearMemoria]

theorem tabla_de (lig : Ligada cfg mem) {tabla : List Puntero}
    (here : mem.tablasPaginas (claveFileTag f) = some tabla) (p : Puntero) :
    p ∈ tabla ↔ ∃ e, mem.heap p = some e ∧ e.archivo = f := by
  have listed := lig.tabla (claveFileTag f) p
  rw [here, Option.getD_some] at listed
  rw [listed]
  constructor
  · intro found
    obtain ⟨e, he, key⟩ := found
    exact ⟨e, he, claveFileTag_inj key⟩
  · intro found
    obtain ⟨e, he, rfl⟩ := found
    exact ⟨e, he, rfl⟩

theorem sin_tabla (lig : Ligada cfg mem) (none_ : mem.tablasPaginas (claveFileTag f) = none)
    (he : mem.heap p = some e) : e.archivo ≠ f := by
  rintro rfl
  have listed := (lig.tabla (claveFileTag e.archivo) p).mpr ⟨e, he, rfl⟩
  simp [none_] at listed

theorem entradaDe_some (lig : Ligada cfg mem) :
    entradaDe mem f k = some p ↔ EsPagina mem f k p := by
  unfold entradaDe
  cases here : mem.tablasPaginas (claveFileTag f) with
  | none =>
    simp only [reduceCtorEq, false_iff]
    intro page
    obtain ⟨e, he, file, _⟩ := page
    exact sin_tabla lig here he file
  | some tabla =>
    have page : ∀ q, q ∈ tabla ∧ ((mem.heap q).any fun e => e.numeroPagina == k) = true ↔
        EsPagina mem f k q := by
      intro q
      rw [tabla_de lig here]
      constructor
      · intro found
        obtain ⟨⟨e, he, file⟩, num⟩ := found
        exact ⟨e, he, file, by simpa [he] using num⟩
      · intro found
        obtain ⟨e, he, file, num⟩ := found
        exact ⟨⟨e, he, file⟩, by simpa [he] using num⟩
    constructor
    · intro found
      exact (page p).mp ⟨List.mem_of_find?_eq_some found, by simpa using List.find?_some found⟩
    · intro there
      have listed := (page p).mpr there
      have found : (tabla.find? fun q =>
          (mem.heap q).any fun e => e.numeroPagina == k).isSome = true :=
        List.find?_isSome.mpr ⟨p, listed⟩
      obtain ⟨q, hq⟩ := Option.isSome_iff_exists.mp found
      have other : EsPagina mem f k q :=
        (page q).mp ⟨List.mem_of_find?_eq_some hq, by simpa using List.find?_some hq⟩
      dsimp only
      rw [hq, lig.unica f k q p other there]

theorem entradaDe_none (lig : Ligada cfg mem) :
    entradaDe mem f k = none ↔ ∀ p, ¬ EsPagina mem f k p := by
  rw [Option.eq_none_iff_forall_ne_some]
  exact forall_congr' fun p => not_congr (entradaDe_some lig)

theorem representacion_buscarPagina (rep : Representacion cfg mem) (f : ArchivoTag) (k : Nat) :
    Representacion cfg (buscarPagina cfg mem f k).2 := by
  unfold buscarPagina
  split
  · exact rep
  rename_i p found
  dsimp only
  split
  swap
  · exact rep
  rename_i lru
  obtain ⟨e, he, _⟩ := (entradaDe_some rep.ligada).mp found
  have old := rep.lru lru
  have there : p ∈ mem.lruList := (old.todas p).mpr (by simp [he])
  refine ⟨⟨rep.ligada.libre, rep.ligada.ocupado, rep.ligada.entrada, rep.ligada.tabla,
    rep.ligada.sinRepetir, rep.ligada.noVacia, rep.ligada.unica⟩, fun _ => ⟨?_, ?_⟩,
    fun clock => ⟨(rep.bits clock).modificados, (rep.bits clock).libres⟩, rep.puntero, rep.paginas⟩
  · have fresh : p ∉ mem.lruList.erase p := fun h => (old.sinRepetir.mem_erase_iff.mp h).1 rfl
    exact List.Nodup.append (old.sinRepetir.erase p) (List.nodup_singleton p) (by simpa using fresh)
  · intro q
    rw [List.mem_append, old.sinRepetir.mem_erase_iff, List.mem_singleton, ← old.todas q]
    by_cases same : q = p
    · simp [same, there]
    · simp [same]

def limpia (e : EntradaPagina) : EntradaPagina := { e with modificada := false }

def paginaSucia (mem : MemoriaInterna) (p : Puntero) : Option (Int × Bytes) :=
  (mem.heap p).bind fun e =>
    if e.modificada then some ((e.numeroPagina : Int), mem.arena e.marco) else none

def camposDePagina (pagina : Int × Bytes) : List Campo := [.entero pagina.1, .bloque pagina.2]

structure MismosPunteros (mem mem' : MemoriaInterna) : Prop where
  arena : mem'.arena = mem.arena
  marcos : mem'.marcos = mem.marcos
  tablas : mem'.tablasPaginas = mem.tablasPaginas
  lru : mem'.lruList = mem.lruList
  puntero : mem'.puntero = mem.puntero
  referencia : mem'.bitsReferencia = mem.bitsReferencia

theorem mismosPunteros_refl (mem : MemoriaInterna) : MismosPunteros mem mem :=
  ⟨rfl, rfl, rfl, rfl, rfl, rfl⟩

theorem mismosPunteros_trans {mem'' : MemoriaInterna} (first : MismosPunteros mem mem')
    (second : MismosPunteros mem' mem'') : MismosPunteros mem mem'' :=
  ⟨second.arena.trans first.arena, second.marcos.trans first.marcos,
    second.tablas.trans first.tablas, second.lru.trans first.lru,
    second.puntero.trans first.puntero, second.referencia.trans first.referencia⟩

structure BitsTrasFlush (cfg : ConfigMemoria) (mem mem' : MemoriaInterna)
    (tabla : List Puntero) : Prop where
  limpios : cfg.algoritmo = .clockM → ∀ p ∈ tabla, ∀ e, mem.heap p = some e →
    e.modificada = true → mem'.bitsModificados e.marco = false
  iguales : ∀ m, (cfg.algoritmo = .clockM → ∀ p ∈ tabla, ∀ e, mem.heap p = some e →
    e.modificada = true → e.marco ≠ m) → mem'.bitsModificados m = mem.bitsModificados m

theorem tomarModificada_spec (cfg : ConfigMemoria) (fl : Flush) (p : Puntero) :
    MismosPunteros fl.mem (tomarModificada cfg fl p).mem ∧
    (tomarModificada cfg fl p).mem.heap =
      Function.update fl.mem.heap p ((fl.mem.heap p).map limpia) ∧
    BitsTrasFlush cfg fl.mem (tomarModificada cfg fl p).mem [p] ∧
    (tomarModificada cfg fl p).campos =
      fl.campos ++ (paginaSucia fl.mem p).toList.flatMap camposDePagina ∧
    (tomarModificada cfg fl p).cantidad =
      fl.cantidad + (paginaSucia fl.mem p).toList.length := by
  cases he : fl.mem.heap p with
  | none =>
    have idle : tomarModificada cfg fl p = fl := by simp [tomarModificada, he]
    rw [idle]
    refine ⟨mismosPunteros_refl _, ?_, ⟨?_, fun _ _ => rfl⟩, ?_, ?_⟩
    · rw [Option.map_none, ← he, Function.update_eq_self]
    · simp [he]
    · simp [paginaSucia, he]
    · simp [paginaSucia, he]
  | some e =>
    cases dirty : e.modificada with
    | false =>
      have idle : tomarModificada cfg fl p = fl := by simp [tomarModificada, he, dirty]
      have same : limpia e = e := by
        cases e
        simp_all [limpia]
      rw [idle]
      refine ⟨mismosPunteros_refl _, ?_, ⟨?_, fun _ _ => rfl⟩, ?_, ?_⟩
      · rw [Option.map_some, same, ← he, Function.update_eq_self]
      · simp [he, dirty]
      · simp [paginaSucia, he, dirty]
      · simp [paginaSucia, he, dirty]
    | true =>
      simp only [tomarModificada, he, dirty, if_true]
      refine ⟨⟨rfl, rfl, rfl, rfl, rfl, rfl⟩, ?_, ⟨?_, ?_⟩, ?_, ?_⟩
      · simp [limpia]
      · intro clock q hq e' he'
        rw [List.mem_singleton.mp hq, he] at he'
        cases he'
        simp [clock]
      · intro m other
        by_cases clock : cfg.algoritmo = .clockM
        · simp [clock, (other clock p (by simp) e he dirty).symm]
        · simp [clock]
      · simp [paginaSucia, he, dirty, camposDePagina]
      · simp [paginaSucia, he, dirty]

theorem tomarModificada_bucle (cfg : ConfigMemoria) (tabla : List Puntero) :
    ∀ fl : Flush, tabla.Nodup →
      let r := tabla.foldl (tomarModificada cfg) fl
      let paginas := tabla.filterMap (paginaSucia fl.mem)
      MismosPunteros fl.mem r.mem ∧
      (∀ p, r.mem.heap p =
        if p ∈ tabla then (fl.mem.heap p).map limpia else fl.mem.heap p) ∧
      BitsTrasFlush cfg fl.mem r.mem tabla ∧
      r.campos = fl.campos ++ paginas.flatMap camposDePagina ∧
      r.cantidad = fl.cantidad + paginas.length := by
  induction tabla with
  | nil =>
    intro fl _
    refine ⟨mismosPunteros_refl _, by simp, ⟨?_, fun _ _ => rfl⟩, by simp, by simp⟩
    simp
  | cons p rest ih =>
    intro fl nodup
    obtain ⟨fresh, nodup⟩ := List.nodup_cons.mp nodup
    obtain ⟨fields, heap, bits, campos, cantidad⟩ := tomarModificada_spec cfg fl p
    rw [List.foldl_cons]
    generalize tomarModificada cfg fl p = turn at fields heap bits campos cantidad ⊢
    obtain ⟨rfields, rheap, rbits, rcampos, rcantidad⟩ := ih turn nodup
    have others : ∀ q ∈ rest, turn.mem.heap q = fl.mem.heap q := by
      intro q hq
      have ne : q ≠ p := fun same => fresh (same ▸ hq)
      rw [heap, Function.update_of_ne ne]
    have pages : rest.filterMap (paginaSucia turn.mem) = rest.filterMap (paginaSucia fl.mem) :=
      List.filterMap_congr fun q hq => by
        simp only [paginaSucia, others q hq, fields.arena]
    have step : (p :: rest).filterMap (paginaSucia fl.mem) =
        (paginaSucia fl.mem p).toList ++ rest.filterMap (paginaSucia fl.mem) := by
      rw [List.filterMap_cons]
      cases paginaSucia fl.mem p <;> rfl
    dsimp only
    refine ⟨mismosPunteros_trans fields rfields, ?_, ⟨?_, ?_⟩, ?_, ?_⟩
    · intro q
      rw [rheap, heap]
      by_cases same : q = p
      · subst same
        simp [fresh]
      · simp [same]
    · intro clock q hq e he dirty
      rcases List.mem_cons.mp hq with rfl | hq
      · have reset := bits.limpios clock q (by simp) e he dirty
        by_cases later : ∃ q' ∈ rest, ∃ e', fl.mem.heap q' = some e' ∧ e'.modificada = true ∧
            e'.marco = e.marco
        · obtain ⟨q', hq', e', he', dirty', frame⟩ := later
          rw [← frame]
          exact rbits.limpios clock q' hq' e' ((others q' hq').trans he') dirty'
        · rw [rbits.iguales e.marco, reset]
          intro _ q' hq' e' he' dirty' frame
          exact later ⟨q', hq', e', (others q' hq').symm.trans he', dirty', frame⟩
      · exact rbits.limpios clock q hq e ((others q hq).trans he) dirty
    · intro m other
      rw [rbits.iguales m, bits.iguales m]
      · intro clock q hq
        rw [List.mem_singleton] at hq
        exact other clock q (hq ▸ List.mem_cons_self)
      · intro clock q hq e he
        exact other clock q (List.mem_cons_of_mem p hq) e ((others q hq).symm.trans he)
    · rw [rcampos, campos, pages, step, List.flatMap_append, List.append_assoc]
    · rw [rcantidad, cantidad, pages, step, List.length_append]
      omega

def limpiaDe (f : ArchivoTag) (e : EntradaPagina) : EntradaPagina :=
  if e.archivo = f then limpia e else e

def tablaDe (mem : MemoriaInterna) (f : ArchivoTag) : List Puntero :=
  (mem.tablasPaginas (claveFileTag f)).getD []

theorem mem_tablaDe (lig : Ligada cfg mem) :
    p ∈ tablaDe mem f ↔ ∃ e, mem.heap p = some e ∧ e.archivo = f := by
  rw [tablaDe, lig.tabla]
  constructor
  · intro found
    obtain ⟨e, he, key⟩ := found
    exact ⟨e, he, claveFileTag_inj key⟩
  · intro found
    obtain ⟨e, he, rfl⟩ := found
    exact ⟨e, he, rfl⟩

theorem tablaDe_nodup (lig : Ligada cfg mem) (f : ArchivoTag) : (tablaDe mem f).Nodup := by
  unfold tablaDe
  cases here : mem.tablasPaginas (claveFileTag f) with
  | none => exact List.nodup_nil
  | some tabla => exact lig.sinRepetir _ tabla here

def paginasSucias (mem : MemoriaInterna) (f : ArchivoTag) : List (Int × Bytes) :=
  (tablaDe mem f).filterMap (paginaSucia mem)

theorem armarFlush_spec (lig : Ligada cfg mem) (queryId : Int) (f : ArchivoTag) :
    let r := armarFlush cfg mem queryId f
    MismosPunteros mem r.mem ∧
    (∀ p, r.mem.heap p = (mem.heap p).map (limpiaDe f)) ∧
    BitsTrasFlush cfg mem r.mem (tablaDe mem f) ∧
    r.campos = [.entero queryId, .texto f.file, .texto f.tag] ++
      (paginasSucias mem f).flatMap camposDePagina ∧
    r.cantidad = (paginasSucias mem f).length := by
  have loop := tomarModificada_bucle cfg (tablaDe mem f)
    ⟨mem, [.entero queryId, .texto f.file, .texto f.tag], 0⟩ (tablaDe_nodup lig f)
  have run : armarFlush cfg mem queryId f = (tablaDe mem f).foldl (tomarModificada cfg)
      ⟨mem, [.entero queryId, .texto f.file, .texto f.tag], 0⟩ := by
    unfold armarFlush tablaDe
    cases mem.tablasPaginas (claveFileTag f) <;> rfl
  rw [← run] at loop
  obtain ⟨fields, heap, bits, campos, cantidad⟩ := loop
  refine ⟨fields, fun p => ?_, bits, campos, cantidad.trans (Nat.zero_add _)⟩
  rw [heap]
  cases he : mem.heap p with
  | none => simp
  | some e =>
    have listed : p ∈ tablaDe mem f ↔ e.archivo = f := by
      rw [mem_tablaDe lig, he]
      simp
    simp only [listed, Option.map_some, limpiaDe]
    split <;> rfl

structure MismaPagina (e e' : EntradaPagina) : Prop where
  archivo : e'.archivo = e.archivo
  numero : e'.numeroPagina = e.numeroPagina
  marco : e'.marco = e.marco

theorem limpiaDe_pagina (f : ArchivoTag) (e : EntradaPagina) : MismaPagina e (limpiaDe f e) := by
  unfold limpiaDe
  split <;> exact ⟨rfl, rfl, rfl⟩

structure SoloMarcas (mem mem' : MemoriaInterna) : Prop where
  marcos : mem'.marcos = mem.marcos
  tablas : mem'.tablasPaginas = mem.tablasPaginas
  antes : ∀ p e', mem'.heap p = some e' → ∃ e, mem.heap p = some e ∧ MismaPagina e e'
  despues : ∀ p e, mem.heap p = some e → ∃ e', mem'.heap p = some e' ∧ MismaPagina e e'

theorem soloMarcas_map (g : Puntero → EntradaPagina → EntradaPagina)
    (same : ∀ p e, MismaPagina e (g p e)) (marcos : mem'.marcos = mem.marcos)
    (tablas : mem'.tablasPaginas = mem.tablasPaginas)
    (heap : ∀ p, mem'.heap p = (mem.heap p).map (g p)) : SoloMarcas mem mem' := by
  refine ⟨marcos, tablas, ?_, ?_⟩
  · intro p e' he'
    rw [heap, Option.map_eq_some_iff] at he'
    obtain ⟨e, he, rfl⟩ := he'
    exact ⟨e, he, same p e⟩
  · intro p e he
    exact ⟨g p e, by rw [heap, he]; rfl, same p e⟩

theorem soloMarcas_isSome (marks : SoloMarcas mem mem') (p : Puntero) :
    (mem'.heap p).isSome = (mem.heap p).isSome := by
  rw [Bool.eq_iff_iff, Option.isSome_iff_exists, Option.isSome_iff_exists]
  constructor
  · intro there
    obtain ⟨e', he'⟩ := there
    obtain ⟨e, he, _⟩ := marks.antes p e' he'
    exact ⟨e, he⟩
  · intro there
    obtain ⟨e, he⟩ := there
    obtain ⟨e', he', _⟩ := marks.despues p e he
    exact ⟨e', he'⟩

theorem esPagina_soloMarcas (marks : SoloMarcas mem mem') :
    EsPagina mem' f k p ↔ EsPagina mem f k p := by
  constructor
  · intro page
    obtain ⟨e', he', file, num⟩ := page
    obtain ⟨e, he, same⟩ := marks.antes p e' he'
    exact ⟨e, he, same.archivo ▸ file, same.numero ▸ num⟩
  · intro page
    obtain ⟨e, he, file, num⟩ := page
    obtain ⟨e', he', same⟩ := marks.despues p e he
    exact ⟨e', he', same.archivo.trans file, same.numero.trans num⟩

theorem ligada_soloMarcas (marks : SoloMarcas mem mem') (lig : Ligada cfg mem) :
    Ligada cfg mem' := by
  constructor
  · rw [marks.marcos]
    exact lig.libre
  · intro m p there
    rw [marks.marcos] at there
    obtain ⟨hm, e, he, frame⟩ := lig.ocupado m p there
    obtain ⟨e', he', same⟩ := marks.despues p e he
    exact ⟨hm, e', he', same.marco.trans frame⟩
  · intro p e' he'
    obtain ⟨e, he, same⟩ := marks.antes p e' he'
    rw [marks.marcos, same.marco]
    exact lig.entrada p e he
  · intro clave p
    rw [marks.tablas, lig.tabla]
    constructor
    · intro there
      obtain ⟨e, he, key⟩ := there
      obtain ⟨e', he', same⟩ := marks.despues p e he
      exact ⟨e', he', same.archivo ▸ key⟩
    · intro there
      obtain ⟨e', he', key⟩ := there
      obtain ⟨e, he, same⟩ := marks.antes p e' he'
      exact ⟨e, he, same.archivo ▸ key⟩
  · rw [marks.tablas]
    exact lig.sinRepetir
  · rw [marks.tablas]
    exact lig.noVacia
  · intro f k p q hp hq
    exact lig.unica f k p q ((esPagina_soloMarcas marks).mp hp) ((esPagina_soloMarcas marks).mp hq)

theorem lruAlDia_soloMarcas (marks : SoloMarcas mem mem') (list : mem'.lruList = mem.lruList)
    (dia : LruAlDia mem) : LruAlDia mem' := by
  constructor
  · rw [list]
    exact dia.sinRepetir
  · intro p
    rw [list, soloMarcas_isSome marks]
    exact dia.todas p

theorem mismo_marco (lig : Ligada cfg mem) (he : mem.heap p = some e) (he' : mem.heap q = some e')
    (frame : e.marco = e'.marco) : p = q := by
  have first := lig.entrada p e he
  rw [frame, lig.entrada q e' he'] at first
  exact (Option.some.inj first).symm

theorem ocupado_no_libre (lig : Ligada cfg mem) (he : mem.heap p = some e) :
    (mem.marcos e.marco).libre = false := by
  rw [Bool.eq_false_iff]
  intro free
  have empty := (lig.libre e.marco).mp free
  rw [lig.entrada p e he] at empty
  contradiction

theorem soloMarcas_armarFlush (lig : Ligada cfg mem) (queryId : Int) (f : ArchivoTag) :
    SoloMarcas mem (armarFlush cfg mem queryId f).mem := by
  obtain ⟨fields, heap, _⟩ := armarFlush_spec lig queryId f
  exact soloMarcas_map (fun _ => limpiaDe f) (fun _ e => limpiaDe_pagina f e) fields.marcos
    fields.tablas heap

theorem bitsAlDia_armarFlush (lig : Ligada cfg mem) (clock : cfg.algoritmo = .clockM)
    (bits : BitsAlDia mem) (queryId : Int) (f : ArchivoTag) :
    BitsAlDia (armarFlush cfg mem queryId f).mem := by
  obtain ⟨fields, heap, reset, _⟩ := armarFlush_spec lig queryId f
  constructor
  · intro p e' he'
    rw [heap, Option.map_eq_some_iff] at he'
    obtain ⟨e, he, rfl⟩ := he'
    rw [(limpiaDe_pagina f e).marco]
    by_cases dirty : e.archivo = f ∧ e.modificada = true
    · rw [reset.limpios clock p ((mem_tablaDe lig).mpr ⟨e, he, dirty.1⟩) e he dirty.2]
      simp [limpiaDe, limpia, dirty.1]
    · rw [reset.iguales, bits.modificados p e he]
      · unfold limpiaDe
        split
        · rename_i file
          simpa [limpia] using fun h => dirty ⟨file, h⟩
        · rfl
      · intro _ q hq e₂ he₂ modified frame
        have same := mismo_marco lig he₂ he frame
        subst same
        cases he.symm.trans he₂
        obtain ⟨_, he₃, file⟩ := (mem_tablaDe lig).mp hq
        cases he.symm.trans he₃
        exact dirty ⟨file, modified⟩
  · intro m free
    rw [fields.marcos] at free
    rw [fields.referencia, reset.iguales]
    · exact bits.libres m free
    · intro _ q _ e he _ frame
      rw [← frame, ocupado_no_libre lig he] at free
      contradiction

theorem representacion_armarFlush (rep : Representacion cfg mem) (queryId : Int)
    (f : ArchivoTag) : Representacion cfg (armarFlush cfg mem queryId f).mem := by
  have marks := soloMarcas_armarFlush rep.ligada queryId f
  have fields := (armarFlush_spec rep.ligada queryId f).1
  refine ⟨ligada_soloMarcas marks rep.ligada, fun lru => ?_, fun clock => ?_, ?_, ?_⟩
  · exact lruAlDia_soloMarcas marks fields.lru (rep.lru lru)
  · exact bitsAlDia_armarFlush rep.ligada clock (rep.bits clock) queryId f
  · rw [fields.puntero]
    exact rep.puntero
  · rw [fields.arena]
    exact rep.paginas

theorem tablas_liberarMarco (mem : MemoriaInterna) (p : Puntero) (e : EntradaPagina)
    (clave : String) :
    ((liberarMarco mem p e).tablasPaginas clave).getD [] =
      if clave = claveFileTag e.archivo then ((mem.tablasPaginas clave).getD []).erase p
      else (mem.tablasPaginas clave).getD [] := by
  by_cases key : clave = claveFileTag e.archivo
  · subst key
    cases here : mem.tablasPaginas (claveFileTag e.archivo) with
    | none => simp [liberarMarco, here]
    | some tabla =>
      simp only [liberarMarco, here, Function.update_self, if_true, Option.getD_some]
      split
      · rename_i empty
        simp [List.isEmpty_iff.mp empty]
      · rfl
  · cases here : mem.tablasPaginas (claveFileTag e.archivo) <;> simp [liberarMarco, here, key]

theorem tabla_liberada {tabla : List Puntero} {clave : String}
    (here : (liberarMarco mem p e).tablasPaginas clave = some tabla) :
    ∃ antes, mem.tablasPaginas clave = some antes ∧
      (tabla = antes ∨ tabla = antes.erase p ∧ tabla ≠ []) := by
  cases before : mem.tablasPaginas (claveFileTag e.archivo) with
  | none => exact ⟨tabla, by simpa [liberarMarco, before] using here, .inl rfl⟩
  | some antes =>
    simp only [liberarMarco, before] at here
    by_cases key : clave = claveFileTag e.archivo
    · subst key
      rw [Function.update_self] at here
      split at here
      · contradiction
      · rename_i some_
        cases here
        exact ⟨antes, before, .inr ⟨rfl, by simpa using some_⟩⟩
    · rw [Function.update_of_ne key] at here
      exact ⟨tabla, here, .inl rfl⟩

theorem heap_liberarMarco : (liberarMarco mem p e).heap q = some e' ↔
    q ≠ p ∧ mem.heap q = some e' := by
  by_cases same : q = p <;> simp [liberarMarco, same]

theorem ligada_liberarMarco (lig : Ligada cfg mem) (he : mem.heap p = some e) :
    Ligada cfg (liberarMarco mem p e) := by
  have frame : ∀ q e', q ≠ p → mem.heap q = some e' → e'.marco ≠ e.marco := by
    intro q e' other he' same
    exact other (mismo_marco lig he' he same)
  constructor
  · intro m
    by_cases same : m = e.marco
    · simp [liberarMarco, same]
    · simpa [liberarMarco, same] using lig.libre m
  · intro m q there
    by_cases same : m = e.marco
    · simp [liberarMarco, same] at there
    · obtain ⟨hm, e', he', frame'⟩ := lig.ocupado m q (by simpa [liberarMarco, same] using there)
      refine ⟨hm, e', heap_liberarMarco.mpr ⟨?_, he'⟩, frame'⟩
      rintro rfl
      cases he.symm.trans he'
      exact same frame'.symm
  · intro q e' he'
    obtain ⟨other, he'⟩ := heap_liberarMarco.mp he'
    simpa [liberarMarco, frame q e' other he'] using lig.entrada q e' he'
  · intro clave q
    rw [tablas_liberarMarco]
    simp only [heap_liberarMarco]
    split
    · rename_i key
      have nodup : ((mem.tablasPaginas clave).getD []).Nodup := by
        rw [key]
        exact tablaDe_nodup lig e.archivo
      rw [nodup.mem_erase_iff, lig.tabla]
      simp only [and_assoc, exists_and_left]
    · rename_i key
      rw [lig.tabla]
      constructor
      · intro there
        obtain ⟨e', he', file⟩ := there
        refine ⟨e', ⟨?_, he'⟩, file⟩
        rintro rfl
        cases he.symm.trans he'
        exact key file.symm
      · intro there
        obtain ⟨e', ⟨_, he'⟩, file⟩ := there
        exact ⟨e', he', file⟩
  · intro clave tabla here
    obtain ⟨antes, before, rfl | ⟨rfl, _⟩⟩ := tabla_liberada here
    · exact lig.sinRepetir clave _ before
    · exact (lig.sinRepetir clave antes before).erase p
  · intro clave tabla here
    obtain ⟨antes, before, rfl | ⟨_, some_⟩⟩ := tabla_liberada here
    · exact lig.noVacia clave _ before
    · exact some_
  · intro f k q q' hq hq'
    have old : ∀ q, EsPagina (liberarMarco mem p e) f k q → EsPagina mem f k q := by
      intro q page
      obtain ⟨e', he', file, num⟩ := page
      exact ⟨e', (heap_liberarMarco.mp he').2, file, num⟩
    exact lig.unica f k q q' (old q hq) (old q' hq')

structure Desalojada (cfg : ConfigMemoria) (mem : MemoriaInterna) (p : Puntero)
    (e : EntradaPagina) (mem' : MemoriaInterna) : Prop where
  ligada : Ligada cfg mem'
  libre : (mem'.marcos e.marco).libre = true
  viejas : ∀ q e', mem'.heap q = some e' → ∃ e, mem.heap q = some e ∧ MismaPagina e e'
  quedan : ∀ q, (mem'.heap q).isSome = true ↔ q ≠ p ∧ (mem.heap q).isSome = true
  arena : mem'.arena = mem.arena
  lru : mem'.lruList = mem.lruList
  puntero : mem'.puntero = mem.puntero
  referencia : mem'.bitsReferencia = mem.bitsReferencia
  modificados : cfg.algoritmo = .clockM → BitsAlDia mem →
    ∀ q e', mem'.heap q = some e' → mem'.bitsModificados e'.marco = e'.modificada
  libres : cfg.algoritmo = .clockM → BitsAlDia mem →
    ∀ m, m ≠ e.marco → (mem'.marcos m).libre = true →
      mem'.bitsReferencia m = false ∧ mem'.bitsModificados m = false

theorem liberarMarco_desalojada (lig : Ligada cfg mem) (he : mem.heap p = some e) :
    Desalojada cfg mem p e (liberarMarco mem p e) := by
  refine ⟨ligada_liberarMarco lig he, by simp [liberarMarco], ?_, ?_, rfl, rfl, rfl, rfl, ?_, ?_⟩
  · intro q e' he'
    exact ⟨e', (heap_liberarMarco.mp he').2, rfl, rfl, rfl⟩
  · intro q
    by_cases same : q = p <;> simp [liberarMarco, same]
  · intro _ bits q e' he'
    exact bits.modificados q e' (heap_liberarMarco.mp he').2
  · intro _ bits m other free
    exact bits.libres m (by simpa [liberarMarco, other] using free)

theorem desalojar_desalojada (lig : Ligada cfg mem) (queryId : Int)
    (he : mem.heap p = some e) :
    (desalojar cfg mem queryId p e).Ensures (Desalojada cfg mem p e) := by
  unfold desalojar
  split
  swap
  · exact liberarMarco_desalojada lig he
  intro reply
  have marks := soloMarcas_armarFlush lig queryId e.archivo
  obtain ⟨fields, heap, _⟩ := armarFlush_spec lig queryId e.archivo
  obtain ⟨e₁, he₁, same⟩ := marks.despues p e he
  have free : liberarMarco (armarFlush cfg mem queryId e.archivo).mem p e =
      liberarMarco (armarFlush cfg mem queryId e.archivo).mem p e₁ := by
    simp only [liberarMarco, same.archivo, same.marco]
  have gone := liberarMarco_desalojada (ligada_soloMarcas marks lig) he₁
  show Desalojada cfg mem p e (liberarMarco (armarFlush cfg mem queryId e.archivo).mem p e)
  rw [free]
  refine ⟨gone.ligada, same.marco ▸ gone.libre, ?_, ?_, gone.arena.trans fields.arena,
    gone.lru.trans fields.lru, gone.puntero.trans fields.puntero,
    gone.referencia.trans fields.referencia, ?_, ?_⟩
  · intro q e' he'
    obtain ⟨e₂, he₂, same₂⟩ := gone.viejas q e' he'
    obtain ⟨e₃, he₃, same₃⟩ := marks.antes q e₂ he₂
    exact ⟨e₃, he₃, same₂.archivo.trans same₃.archivo, same₂.numero.trans same₃.numero,
      same₂.marco.trans same₃.marco⟩
  · intro q
    rw [gone.quedan, soloMarcas_isSome marks]
  · intro clock bits
    exact gone.modificados clock (bitsAlDia_armarFlush lig clock bits queryId e.archivo)
  · intro clock bits
    rw [← same.marco]
    exact gone.libres clock (bitsAlDia_armarFlush lig clock bits queryId e.archivo)

end WorkerRepresentacion
