import MasterOfFiles.Storage.Volcados
import MasterOfFiles.Worker.Llamadas

/-!
A FLUSH from the frames of a Worker to the blocks of Storage: the packet is built from the page
table, with its count at the end, and read by positions on the other side. The File:Tag is one
that Storage has, so its names are simple ones (Nombre).
-/
namespace SistemaVolcado
open StorageEstado StorageArchivos StorageEscritura StoragePedidos StorageAcuerdo
open StorageVolcados
open Solicitudes Dialogue WorkerEntradas WorkerRepresentacion WorkerLlamadas
open WorkerMemoria (ConfigMemoria)
open WorkerPaginas (Lote)
open WorkerCoherencia (Guardado)

variable {Hash : Type} {sb : Superbloque} {s s' : Storage Hash} {cfg : ConfigMemoria}
  {mem : MemoriaInterna} {f : ArchivoTag} {g : FileTag} {queryId : Int}

def nombreDe (s : String) : Option Nombre :=
  if h : s ≠ "" ∧ s ≠ "." ∧ s ≠ ".." ∧ s.toList.all caracterSimple = true then some ⟨s, h⟩
  else none

def archivoDe (paquete : Mensaje) : Option FileTag := do
  let file ← paquete.texto 2
  let tag ← paquete.texto 3
  let file ← nombreDe file
  let tag ← nombreDe tag
  return ⟨file, tag⟩

def leerPaginas (paquete : Mensaje) : Nat → Nat → Option (List Pagina)
  | 0, _ => some []
  | restantes + 1, idxDatos =>
    if paquete.listSize ≤ idxDatos + 1 then some []
    else do
      let numero ← paquete.entero idxDatos
      let contenido ← paquete.bloque (idxDatos + 1)
      let otras ← leerPaginas paquete restantes (idxDatos + 2)
      return (numero, contenido) :: otras

/-- flush_archivo on its packet; `none` when a value is not of the kind it is read as. -/
def flushArchivoDe (sb : Superbloque) (s : Storage Hash) (paquete : Mensaje) :
    Option (Bool × Storage Hash) :=
  if paquete.listSize < 5 then some (false, s)
  else do
    let f ← archivoDe paquete
    let cantidad ← paquete.entero (paquete.listSize - 1)
    let paginas ← leerPaginas paquete cantidad.toNat 4
    return flushArchivo sb s f paginas cantidad

structure Nombra (g : FileTag) (f : ArchivoTag) : Prop where
  file : g.file.texto = f.file
  tag : g.tag.texto = f.tag

theorem nombreDe_some {t : String} {n : Nombre} (h : nombreDe t = some n) : n.texto = t := by
  unfold nombreDe at h
  split at h
  · cases h
    rfl
  · contradiction

theorem archivoDe_some {resto : List Campo}
    (h : archivoDe ⟨.storageFlush, .entero queryId :: .texto f.file :: .texto f.tag :: resto⟩ =
      some g) : Nombra g f := by
  simp only [archivoDe, Mensaje.texto, Option.bind_eq_bind, Option.bind_eq_some_iff,
    Option.pure_def, Option.some.injEq] at h
  obtain ⟨file, hfile, tag, htag, n, hn, n', hn', rfl⟩ := h
  cases hfile
  cases htag
  exact ⟨nombreDe_some hn, nombreDe_some hn'⟩

theorem leerPaginas_campos (paginas : List Pagina) (fin : Campo) :
    ∀ antes : List Campo,
      leerPaginas ⟨.storageFlush, antes ++ paginas.flatMap camposDePagina ++ [fin]⟩
        paginas.length (antes.length + 1) = some paginas := by
  induction paginas with
  | nil => exact fun _ => rfl
  | cons p resto ih =>
    intro antes
    have rest := ih (antes ++ camposDePagina p)
    have all : antes ++ camposDePagina p ++ resto.flatMap camposDePagina ++ [fin] =
        antes ++ (p :: resto).flatMap camposDePagina ++ [fin] := by simp
    have index : (antes ++ camposDePagina p).length + 1 = antes.length + 1 + 2 := by
      simp [camposDePagina]
    rw [all, index] at rest
    have number : Mensaje.entero ⟨.storageFlush, antes ++ (p :: resto).flatMap camposDePagina ++
        [fin]⟩ (antes.length + 1) = some p.1 := by
      simp [Mensaje.entero, camposDePagina]
    have content : Mensaje.bloque ⟨.storageFlush, antes ++ (p :: resto).flatMap camposDePagina ++
        [fin]⟩ (antes.length + 1 + 1) = some p.2 := by
      simp [Mensaje.bloque, camposDePagina]
    have room : ¬ Mensaje.listSize ⟨.storageFlush, antes ++
        (p :: resto).flatMap camposDePagina ++ [fin]⟩ ≤ antes.length + 1 + 1 := by
      simp [Mensaje.listSize, camposDePagina]
    rw [List.length_cons, leerPaginas, if_neg room, number, content, rest]
    rfl

theorem flushArchivoDe_paquete (lig : Ligada cfg mem) (sb : Superbloque) (s : Storage Hash)
    (queryId : Int) (f : ArchivoTag) :
    flushArchivoDe sb s (paqueteFlush cfg mem queryId f) =
      (archivoDe (paqueteFlush cfg mem queryId f)).map fun g =>
        flushArchivo sb s g (paginasSucias mem f) (paginasSucias mem f).length := by
  obtain ⟨_, _, _, campos, cantidad⟩ := armarFlush_spec lig queryId f
  have packet : paqueteFlush cfg mem queryId f = ⟨.storageFlush,
      [.entero queryId, .texto f.file, .texto f.tag] ++
        (paginasSucias mem f).flatMap camposDePagina ++
          [.entero (paginasSucias mem f).length]⟩ := by
    simp only [paqueteFlush, campos, cantidad]
  have pages := leerPaginas_campos (paginasSucias mem f) (.entero (paginasSucias mem f).length)
    [.entero queryId, .texto f.file, .texto f.tag]
  rw [← packet] at pages
  have count : (paqueteFlush cfg mem queryId f).entero
      ((paqueteFlush cfg mem queryId f).listSize - 1) =
        some ((paginasSucias mem f).length : Int) := by
    simp [packet, Mensaje.entero, Mensaje.listSize]
  have long : ¬ (paqueteFlush cfg mem queryId f).listSize < 5 := by
    simp [packet, Mensaje.listSize]
  unfold flushArchivoDe
  rw [if_neg long]
  cases archivoDe (paqueteFlush cfg mem queryId f) with
  | none => rfl
  | some g =>
    simp only [count, Option.bind_eq_bind, Option.bind_some, Int.toNat_natCast]
    rw [show (4 : Nat) = 3 + 1 from rfl]
    simp only [List.length_cons, List.length_nil] at pages
    rw [pages]
    rfl

theorem mem_paginasSucias (lig : Ligada cfg mem) {pagina : Pagina} :
    pagina ∈ paginasSucias mem f ↔ ∃ p e, mem.heap p = some e ∧ e.archivo = f ∧
      e.modificada = true ∧ pagina = ((e.numeroPagina : Int), mem.arena e.marco) := by
  simp only [paginasSucias, List.mem_filterMap, mem_tablaDe lig]
  constructor
  · intro there
    obtain ⟨p, ⟨e, he, file⟩, dirty⟩ := there
    simp only [paginaSucia, he, Option.bind_some, Option.ite_none_right_eq_some,
      Option.some.injEq] at dirty
    exact ⟨p, e, he, file, dirty.1, dirty.2.symm⟩
  · intro there
    obtain ⟨p, e, he, file, dirty, rfl⟩ := there
    exact ⟨p, ⟨e, he, file⟩, by simp [paginaSucia, he, dirty]⟩

theorem lote_paginasSucias (lig : Ligada cfg mem)
    (marcos : ∀ m, (mem.arena m).length = cfg.tamanioPagina) (f : ArchivoTag) :
    Lote cfg (paginasSucias mem f) := by
  constructor
  · rw [paginasSucias, List.pairwise_filterMap]
    refine (tablaDe_nodup lig f).imp_of_mem fun {p q} hp hq other a ha b hb same => ?_
    obtain ⟨e, he, file⟩ := (mem_tablaDe lig).mp hp
    obtain ⟨e', he', file'⟩ := (mem_tablaDe lig).mp hq
    simp only [paginaSucia, he, he', Option.bind_some, Option.ite_none_right_eq_some,
      Option.some.injEq] at ha hb
    rw [← ha.2, ← hb.2] at same
    exact other (lig.unica f e.numeroPagina p q ⟨e, he, file, rfl⟩
      ⟨e', he', file', (Int.ofNat.inj same).symm⟩)
  · intro pagina there
    obtain ⟨p, e, _, _, _, rfl⟩ := (mem_paginasSucias lig).mp there
    exact marcos e.marco

/-- Only flags of the pages of f differ, and they are off; so are their M bits. -/
structure SoloLimpias (cfg : ConfigMemoria) (f : ArchivoTag) (mem mem' : MemoriaInterna) :
    Prop where
  resto : MismosPunteros mem mem'
  entradas : ∀ p, mem'.heap p = (mem.heap p).map (limpiaDe f)
  bits : cfg.algoritmo = .clockM → ∀ p e, mem.heap p = some e → e.archivo = f →
    mem'.bitsModificados e.marco = false
  otrosBits : ∀ m, (cfg.algoritmo = .clockM → ∀ p e, mem.heap p = some e → e.archivo = f →
    e.marco ≠ m) → mem'.bitsModificados m = mem.bitsModificados m

theorem soloLimpias_armarFlush (rep : Representacion cfg mem) (queryId : Int)
    (f : ArchivoTag) : SoloLimpias cfg f mem (armarFlush cfg mem queryId f).mem := by
  obtain ⟨fields, heap, bits, _⟩ := armarFlush_spec rep.ligada queryId f
  refine ⟨fields, heap, ?_, ?_⟩
  · intro clock p e he file
    have after := bitsAlDia_armarFlush rep.ligada clock (rep.bits clock) queryId f
    have reset := after.modificados p (limpiaDe f e) (by rw [heap, he]; rfl)
    rw [(limpiaDe_pagina f e).marco] at reset
    simpa [limpiaDe, file, limpia] using reset
  · intro m other
    apply bits.iguales
    intro clock p hp e he _
    obtain ⟨e', he', file⟩ := (mem_tablaDe rep.ligada).mp hp
    cases he.symm.trans he'
    exact other clock p e he file

/-- The modified pages of f are in the blocks of their numbers, no other block reads
    differently, Storage is as consistent as before, and in the Worker only flags went off. -/
theorem flush_de_punta_a_punta (rep : Representacion cfg mem)
    (size : cfg.tamanioPagina = sb.tamanioBloque) (h : Coherente s) (queryId : Int)
    (f : ArchivoTag)
    (ok : flushArchivoDe sb s (paqueteFlush cfg mem queryId f) = some (true, s')) :
    (∃ g, Nombra g f ∧
      (∀ p e, mem.heap p = some e → e.archivo = f → e.modificada = true →
        leerBloque sb s' g e.numeroPagina = some (mem.arena e.marco)) ∧
      ∀ g' (k : Int), (g' ≠ g ∨ ∀ p e, mem.heap p = some e → e.archivo = f →
          e.modificada = true → (e.numeroPagina : Int) ≠ k) →
        leerBloque sb s' g' k = leerBloque sb s g' k) ∧
    Coherente s' ∧ SoloLimpias cfg f mem (armarFlush cfg mem queryId f).mem := by
  have lig := rep.ligada
  rw [flushArchivoDe_paquete lig, Option.map_eq_some_iff] at ok
  obtain ⟨g, named, done⟩ := ok
  obtain ⟨_, _, _, campos, _⟩ := armarFlush_spec lig queryId f
  have names : Nombra g f := by
    simp only [paqueteFlush, campos, List.cons_append, List.nil_append] at named
    exact archivoDe_some named
  have accepted : (flushArchivo sb s g (paginasSucias mem f) (paginasSucias mem f).length).1 =
      true := by rw [done]
  have stored := flush_guardado h size (lote_paginasSucias lig rep.paginas f) accepted
  rw [done] at stored
  obtain ⟨whole, escritas, ajenas⟩ := stored
  refine ⟨⟨g, names, ?_, ?_⟩, whole, soloLimpias_armarFlush rep queryId f⟩
  · intro p e he file dirty
    exact escritas _ ((mem_paginasSucias lig).mpr ⟨p, e, he, file, dirty, rfl⟩)
  · intro g' k other
    refine ajenas g' k (other.imp_right fun apart pagina there => ?_)
    obtain ⟨p, e, he, file, dirty, rfl⟩ := (mem_paginasSucias lig).mp there
    exact apart p e he file dirty

def unaEscritura (mc : Malloc) : MemoriaInterna :=
  tocarPagina unaPagina
    (registrarPagina unaPagina mc (crearMemoria unaPagina) 0 aUno 0 [121])
    (mc.direccion (crearMemoria unaPagina).heap) ⟨aUno, 0, 0, false⟩ true

theorem representacion_unaEscritura (mc : Malloc) :
    Representacion unaPagina (unaEscritura mc) := by
  have loaded : Representacion unaPagina
      (registrarPagina unaPagina mc (crearMemoria unaPagina) 0 aUno 0 [121]) :=
    representacion_registrar (representacion_crearMemoria unaPagina) (cantidadMarcos_pos _) rfl
      (by simp [EsPagina, crearMemoria]) [121]
  exact representacion_tocarPagina loaded (heap_registrar_nueva unaPagina mc _ [121]) true

theorem paquete_unaEscritura (mc : Malloc) : paqueteFlush unaPagina (unaEscritura mc) 7 aUno =
    ⟨.storageFlush, [.entero 7, .texto "A", .texto "1", .entero 0, .bloque [121], .entero 1]⟩ := by
  simp [paqueteFlush, armarFlush, unaEscritura, tocarPagina, registrarPagina, crearMemoria,
    tomarModificada, aUno, unaPagina]

theorem flush_de_punta_a_punta_a1 : ∃ (mc : Malloc) (s' : Storage Bytes),
    flushArchivoDe discoDeSeis (trasPedidos discoDeSeis id (nuevoCon a1 120))
      (paqueteFlush unaPagina (unaEscritura mc) 7 aUno) = some (true, s') ∧
    ∃ g, Nombra g aUno ∧ leerBloque discoDeSeis s' g 0 = some [121] := by
  obtain ⟨mc⟩ := hay_malloc
  have accepted : (flushArchivoDe discoDeSeis (trasPedidos discoDeSeis (id : Bytes → Bytes)
      (nuevoCon a1 120)) ⟨.storageFlush, [.entero 7, .texto "A", .texto "1", .entero 0,
        .bloque [121], .entero 1]⟩).map Prod.fst = some true := by decide
  rw [← paquete_unaEscritura mc, Option.map_eq_some_iff] at accepted
  obtain ⟨⟨_, s'⟩, done, rfl⟩ := accepted
  have whole : Consistente discoDeSeis
      (trasPedidos discoDeSeis (id : Bytes → Bytes) (nuevoCon a1 120)) :=
    consistente_trasPedidos discoDeSeis (by decide)
  obtain ⟨⟨g, names, stored, _⟩, _⟩ := flush_de_punta_a_punta (representacion_unaEscritura mc) rfl
    (consistente_coherente whole) 7 aUno done
  exact ⟨mc, s', done, g, names, stored (mc.direccion (crearMemoria unaPagina).heap)
    ⟨aUno, 0, 0, true⟩ (by simp [unaEscritura, tocarPagina]) rfl rfl⟩

end SistemaVolcado
