import MasterOfFiles.Lib.Dialogue
import MasterOfFiles.Protocolo.Solicitudes
import MasterOfFiles.Worker.Memoria

/-!
memoria.c down to its pointers: entries are allocated and freed, and frames, page tables and
the LRU list point to them. What goes through socket_storage is sent and received, whatever
the replies are. An access through a pointer to no entry ends the function with `none`. Offsets
are any int: a memcpy that begins before memory_arena writes to what malloc put there.
-/
namespace WorkerEntradas
open StorageEstado Solicitudes Dialogue
open WorkerMemoria (Algoritmo ConfigMemoria cadena numPaginaInicial numPaginaFinal)

/-- The file and tag of an entry, with no ':' in the file. -/
structure ArchivoTag where
  file : String
  tag : String
  sinSeparador : ':' ∉ file.toList
  deriving DecidableEq

def claveFileTag (f : ArchivoTag) : String := f.file ++ ":" ++ f.tag

structure EntradaPagina where
  archivo : ArchivoTag
  numeroPagina : Nat
  marco : Nat
  modificada : Bool
  deriving DecidableEq

/-- Addresses of t_entrada_pagina. -/
abbrev Puntero := Nat

abbrev Heap := Puntero → Option EntradaPagina

structure Marco where
  libre : Bool
  entradaPagina : Option Puntero

structure MemoriaInterna where
  heap : Heap
  arena : Nat → Bytes
  marcos : Nat → Marco
  tablasPaginas : String → Option (List Puntero)
  lruList : List Puntero
  puntero : Nat
  bitsReferencia : Nat → Bool
  bitsModificados : Nat → Bool

/-- malloc: an address that is not in use, when there is one; and what is left of the memory
    after a memcpy of some bytes to memory_arena + direccion that leaves the memory that was asked
    for. -/
structure Malloc where
  direccion : Heap → Puntero
  nueva : ∀ heap : Heap, (∃ p, heap p = none) → heap (direccion heap) = none
  pisar : MemoriaInterna → Int → Bytes → MemoriaInterna

open Classical in
noncomputable def mallocEnOrden (pisar : MemoriaInterna → Int → Bytes → MemoriaInterna) :
    Malloc where
  direccion := fun heap =>
    match (List.range 4).find? fun p => (heap p).isNone with
    | some p => p
    | none => if h : ∃ p, heap p = none then h.choose else 0
  nueva := by
    intro heap free
    cases first : (List.range 4).find? fun p => (heap p).isNone with
    | some p => simpa using List.find?_some first
    | none =>
      dsimp only
      rw [dif_pos free]
      exact free.choose_spec
  pisar := pisar

theorem hay_malloc : Nonempty Malloc := ⟨mallocEnOrden fun mem _ _ => mem⟩

def crearMemoria (cfg : ConfigMemoria) : MemoriaInterna where
  heap := fun _ => none
  arena := fun _ => List.replicate cfg.tamanioPagina 0
  marcos := fun _ => ⟨true, none⟩
  tablasPaginas := fun _ => none
  lruList := []
  puntero := 0
  bitsReferencia := fun _ => false
  bitsModificados := fun _ => false

/-- What a Worker does with socket_storage. -/
abbrev ConStorage (α : Type) := Talk Mensaje Mensaje α

variable (cfg : ConfigMemoria) (mc : Malloc)

/-- list_find over the table of the File:Tag. -/
def entradaDe (mem : MemoriaInterna) (f : ArchivoTag) (numPagina : Nat) : Option Puntero :=
  match mem.tablasPaginas (claveFileTag f) with
  | none => none
  | some tabla => tabla.find? fun p => (mem.heap p).any fun e => e.numeroPagina == numPagina

def buscarPagina (mem : MemoriaInterna) (f : ArchivoTag) (numPagina : Nat) :
    Option Puntero × MemoriaInterna :=
  match entradaDe mem f numPagina with
  | none => (none, mem)
  | some p =>
    (some p, if cfg.algoritmo = .lru then { mem with lruList := mem.lruList.erase p ++ [p] }
      else mem)

def encontrarMarcoLibre (mem : MemoriaInterna) : Option Nat :=
  (List.range cfg.cantidadMarcos).find? fun m => (mem.marcos m).libre

/-- The local variables of flush_paginas_modificadas, and the memory. -/
structure Flush where
  mem : MemoriaInterna
  campos : List Campo
  cantidad : Nat

/-- One turn of its loop; a page is two values of the packet. -/
def tomarModificada (fl : Flush) (p : Puntero) : Flush :=
  match fl.mem.heap p with
  | none => fl
  | some e =>
    if e.modificada then
      { mem := { fl.mem with
          heap := Function.update fl.mem.heap p (some { e with modificada := false })
          bitsModificados := if cfg.algoritmo = .clockM
            then Function.update fl.mem.bitsModificados e.marco false
            else fl.mem.bitsModificados }
        campos := fl.campos ++ [.entero e.numeroPagina, .bloque (fl.mem.arena e.marco)]
        cantidad := fl.cantidad + 1 }
    else fl

def armarFlush (mem : MemoriaInterna) (queryId : Int) (f : ArchivoTag) : Flush :=
  let inicio : Flush := ⟨mem, [.entero queryId, .texto f.file, .texto f.tag], 0⟩
  match mem.tablasPaginas (claveFileTag f) with
  | none => inicio
  | some tabla => tabla.foldl (tomarModificada cfg) inicio

def paqueteFlush (mem : MemoriaInterna) (queryId : Int) (f : ArchivoTag) : Mensaje :=
  let fl := armarFlush cfg mem queryId f
  ⟨.storageFlush, fl.campos ++ [.entero fl.cantidad]⟩

/-- The packet is sent, with or without pages; who calls this reads the reply. -/
def flushPaginasModificadas (mem : MemoriaInterna) (queryId : Int) (f : ArchivoTag) :
    ConStorage MemoriaInterna :=
  .send (paqueteFlush cfg mem queryId f) (.done (armarFlush cfg mem queryId f).mem)

/-- The entry leaves its table, which is destroyed when it was the last one, and its frame,
    and is freed. -/
def liberarMarco (mem : MemoriaInterna) (victima : Puntero) (e : EntradaPagina) :
    MemoriaInterna :=
  let clave := claveFileTag e.archivo
  { mem with
    tablasPaginas := match mem.tablasPaginas clave with
      | none => mem.tablasPaginas
      | some tabla => Function.update mem.tablasPaginas clave
          (if (tabla.erase victima).isEmpty then none else some (tabla.erase victima))
    marcos := Function.update mem.marcos e.marco ⟨true, none⟩
    heap := Function.update mem.heap victima none }

/-- What both algorithms do with their victim. The reply of the flush is not looked at. -/
def desalojar (mem : MemoriaInterna) (queryId : Int) (victima : Puntero) (e : EntradaPagina) :
    ConStorage MemoriaInterna :=
  if e.modificada then do
    let mem ← flushPaginasModificadas cfg mem queryId e.archivo
    .receive fun _ => .done (liberarMarco mem victima e)
  else .done (liberarMarco mem victima e)

def aplicarLru (mem : MemoriaInterna) (queryId : Int) :
    ConStorage (Option Nat × MemoriaInterna) :=
  match mem.lruList with
  | [] => .done (some 0, mem)
  | victima :: resto =>
    match mem.heap victima with
    | none => .done (none, mem)
    | some e => do
      let mem ← desalojar cfg { mem with lruList := resto } queryId victima e
      .done (some e.marco, mem)

def vuelta (inicio : Nat) : List Nat :=
  (List.range cfg.cantidadMarcos).map fun i => (inicio + i) % cfg.cantidadMarcos

/-- The second turn of the clock resets the reference bits on its way. -/
def segundaVuelta (modificados : Nat → Bool) :
    (Nat → Bool) → List Nat → Option Nat × (Nat → Bool)
  | referencia, [] => (none, referencia)
  | referencia, m :: resto =>
    if referencia m = false ∧ modificados m = true then (some m, referencia)
    else segundaVuelta modificados (Function.update referencia m false) resto

/-- The four turns, all of them from where the pointer stood at first; with the reference bits
    that they leave. -/
def elegirVictima (mem : MemoriaInterna) : Option Nat × (Nat → Bool) :=
  let turno := vuelta cfg mem.puntero
  let limpia (referencia : Nat → Bool) := turno.find? fun m =>
    !referencia m && !mem.bitsModificados m
  match limpia mem.bitsReferencia with
  | some m => (some m, mem.bitsReferencia)
  | none =>
    match segundaVuelta mem.bitsModificados mem.bitsReferencia turno with
    | (some m, referencia) => (some m, referencia)
    | (none, referencia) =>
      ((limpia referencia).or (turno.find? fun m => !referencia m), referencia)

def aplicarClockM (mem : MemoriaInterna) (queryId : Int) :
    ConStorage (Option Nat × MemoriaInterna) :=
  match (vuelta cfg mem.puntero).find? fun m => (mem.marcos m).libre with
  | some m => .done (some m, { mem with puntero := (m + 1) % cfg.cantidadMarcos })
  | none =>
    match elegirVictima cfg mem with
    | (none, referencia) => .done (none, { mem with bitsReferencia := referencia })
    | (some victima, referencia) =>
      let mem := { mem with
        bitsReferencia := referencia, puntero := (victima + 1) % cfg.cantidadMarcos }
      match (mem.marcos victima).entradaPagina with
      | none => .done (none, mem)
      | some p =>
        match mem.heap p with
        | none => .done (none, mem)
        | some e => do
          let mem ← desalojar cfg mem queryId p e
          .done (some victima, { mem with
            bitsReferencia := Function.update mem.bitsReferencia victima false
            bitsModificados := Function.update mem.bitsModificados victima false })

def marcoParaCargar (mem : MemoriaInterna) (queryId : Int) :
    ConStorage (Option Nat × MemoriaInterna) :=
  match encontrarMarcoLibre cfg mem with
  | some m => .done (some m, mem)
  | none =>
    match cfg.algoritmo with
    | .lru => aplicarLru cfg mem queryId
    | .clockM => aplicarClockM cfg mem queryId

/-- The block, unless the reply is not an OK with one. -/
def pedirBloqueStorage (queryId : Int) (f : ArchivoTag) (numPagina : Int) :
    ConStorage (Option Bytes) :=
  .send ⟨.storageReadBlock, [.entero queryId, .texto f.file, .texto f.tag, .entero numPagina]⟩
    (.receive fun r => .done (if r.codigo = .storageSendOkReadBlock then r.bloque 1 else none))

/-- The block is copied to the frame, and a new entry goes to the table, that is created if
    there is none, and to the algorithm's own data. -/
def registrarPagina (mem : MemoriaInterna) (m : Nat) (f : ArchivoTag) (numPagina : Nat)
    (bloque : Bytes) : MemoriaInterna :=
  let nueva := mc.direccion mem.heap
  { heap := Function.update mem.heap nueva (some ⟨f, numPagina, m, false⟩)
    arena := Function.update mem.arena m
      (bloque.take cfg.tamanioPagina ++ (mem.arena m).drop bloque.length)
    marcos := Function.update mem.marcos m ⟨false, some nueva⟩
    tablasPaginas := Function.update mem.tablasPaginas (claveFileTag f)
      (some ((mem.tablasPaginas (claveFileTag f)).getD [] ++ [nueva]))
    lruList := if cfg.algoritmo = .lru then mem.lruList ++ [nueva] else mem.lruList
    puntero := mem.puntero
    bitsReferencia := if cfg.algoritmo = .clockM then Function.update mem.bitsReferencia m true
      else mem.bitsReferencia
    bitsModificados := if cfg.algoritmo = .clockM
      then Function.update mem.bitsModificados m false else mem.bitsModificados }

/-- The victim is gone before the block is asked for. -/
def cargarPagina (mem : MemoriaInterna) (queryId : Int) (f : ArchivoTag) (numPagina : Nat) :
    ConStorage (Option Nat × MemoriaInterna) := do
  let (marco, mem) ← marcoParaCargar cfg mem queryId
  match marco with
  | none => .done (none, mem)
  | some m => do
    let bloque ← pedirBloqueStorage queryId f numPagina
    match bloque with
    | none => .done (none, mem)
    | some bloque => .done (some m, registrarPagina cfg mc mem m f numPagina bloque)

def obtenerPagina (mem : MemoriaInterna) (queryId : Int) (f : ArchivoTag) (numPagina : Nat) :
    ConStorage (Option Puntero × MemoriaInterna) :=
  match buscarPagina cfg mem f numPagina with
  | (some p, mem) => .done (some p, mem)
  | (none, _) => do
    let (marco, mem) ← cargarPagina cfg mc mem queryId f numPagina
    match marco with
    | none => .done (none, mem)
    | some _ => .done (buscarPagina cfg mem f numPagina)

/-- obtenerPagina of any int. No page of a negative number is ever loaded: leer_bloque refuses
    them. -/
def pedirPagina (mem : MemoriaInterna) (queryId : Int) (f : ArchivoTag) (numPagina : Int) :
    ConStorage (Option Puntero × MemoriaInterna) :=
  if 0 ≤ numPagina then obtenerPagina cfg mc mem queryId f numPagina.toNat
  else do
    let (_, mem) ← marcoParaCargar cfg mem queryId
    let _ ← pedirBloqueStorage queryId f numPagina
    .done (none, mem)

def tocarPagina (mem : MemoriaInterna) (p : Puntero) (e : EntradaPagina) (esEscritura : Bool) :
    MemoriaInterna :=
  { mem with
    heap := if esEscritura then Function.update mem.heap p (some { e with modificada := true })
      else mem.heap
    bitsReferencia := if cfg.algoritmo = .clockM
      then Function.update mem.bitsReferencia e.marco true else mem.bitsReferencia
    bitsModificados := if cfg.algoritmo = .clockM ∧ esEscritura
      then Function.update mem.bitsModificados e.marco true else mem.bitsModificados }

def copiarEnMarco (mem : MemoriaInterna) (m despl : Nat) (parcial : Bytes) : MemoriaInterna :=
  { mem with
    arena := Function.update mem.arena m
      ((mem.arena m).take despl ++ parcial ++ (mem.arena m).drop (despl + parcial.length)) }

/-- memcpy to memory_arena + direccion, where frame k starts at k * tamanio_pagina. -/
def copiarEnArena (mem : MemoriaInterna) (direccion : Int) (parcial : Bytes) : MemoriaInterna :=
  { mem with
    arena := fun k => (mem.arena k).mapIdx fun i b =>
      let lugar : Int := k * cfg.tamanioPagina + i - direccion
      if 0 ≤ lugar then parcial.getD lugar.toNat b else b }

def copiarDesde (mem : MemoriaInterna) (m : Nat) (despl : Int) (parcial : Bytes) :
    MemoriaInterna :=
  if 0 ≤ despl then copiarEnMarco mem m despl.toNat parcial
  else copiarEnArena cfg mem (m * cfg.tamanioPagina + despl) parcial

def leerDesde (mem : MemoriaInterna) (m : Nat) (despl : Int) (cuantos : Nat) : Bytes :=
  if 0 ≤ despl then ((mem.arena m).drop despl.toNat).take cuantos
  else (List.range cuantos).map fun i =>
    let lugar := (m * cfg.tamanioPagina + despl).toNat + i
    (mem.arena (lugar / cfg.tamanioPagina)).getD (lugar % cfg.tamanioPagina) 0

/-- A negative sum is a size_t past every page. -/
def bytesEnPagina (despl : Int) (restantes : Nat) : Nat :=
  if 0 ≤ despl + restantes ∧ despl + restantes ≤ cfg.tamanioPagina then restantes
  else (cfg.tamanioPagina - despl).toNat

/-- `completo` when the loop of acceder_memoria reached its end, `fuera` when a memcpy left
    memory_arena, the text or the buffer: what the program does from there on is undefined. -/
structure Acceso where
  mem : MemoriaInterna
  leido : Bytes
  procesados : Nat
  completo : Bool
  fuera : Bool

/-- The loop of acceder_memoria; its first argument counts the pages up to num_pagina_final,
    `escritura` is the text to write. -/
def recorrerPaginas (queryId : Int) (f : ArchivoTag) (escritura : Option Bytes) :
    Nat → Int → Int → Nat → Nat → Bytes → MemoriaInterna → ConStorage Acceso
  | 0, _, _, _, procesados, leido, mem => .done ⟨mem, leido, procesados, true, false⟩
  | paginas + 1, paginaActual, desplActual, restantes, procesados, leido, mem =>
    if restantes = 0 then .done ⟨mem, leido, procesados, true, false⟩
    else do
      let enPagina := bytesEnPagina cfg desplActual restantes
      let (entrada, mem) ← pedirPagina cfg mc mem queryId f paginaActual
      match entrada.bind fun p => (mem.heap p).map fun e => (p, e) with
      | none => .done ⟨mem, leido, procesados, false, false⟩
      | some (p, e) =>
        let mem := tocarPagina cfg mem p e escritura.isSome
        let parcial := ((escritura.getD []).drop procesados).take enPagina
        let direccion : Int := e.marco * cfg.tamanioPagina + desplActual
        if direccion < 0 ∨ restantes < enPagina then
          .done ⟨mc.pisar mem direccion parcial, leido, procesados, false, true⟩
        else
          match escritura with
          | some _ =>
            recorrerPaginas queryId f escritura paginas (paginaActual + 1) 0
              (restantes - enPagina) (procesados + enPagina) leido
              (copiarDesde cfg mem e.marco desplActual parcial)
          | none =>
            recorrerPaginas queryId f escritura paginas (paginaActual + 1) 0
              (restantes - enPagina) (procesados + enPagina)
              (leido ++ leerDesde cfg mem e.marco desplActual enPagina) mem

/-- The turns of the loop, none when num_pagina_final comes before the first page. -/
def vueltasDe (offset : Int) (tam : Nat) : Nat :=
  (numPaginaFinal cfg offset tam - numPaginaInicial cfg offset + 1).toNat

def accederMemoria (mem : MemoriaInterna) (queryId : Int) (f : ArchivoTag) (offset : Int)
    (tam : Nat) (escritura : Option Bytes) : ConStorage Acceso :=
  if tam = 0 then .done ⟨mem, [], 0, false, false⟩
  else
    recorrerPaginas cfg mc queryId f escritura (vueltasDe cfg offset tam)
      (numPaginaInicial cfg offset) (offset.tmod cfg.tamanioPagina) tam 0 [] mem

variable {cfg mc}

theorem bytesEnPagina_natural (despl restantes : Nat) :
    bytesEnPagina cfg despl restantes =
      if cfg.tamanioPagina < despl + restantes then cfg.tamanioPagina - despl else restantes := by
  unfold bytesEnPagina
  split <;> split <;> omega

theorem pedirPagina_natural (mem : MemoriaInterna) (queryId : Int) (f : ArchivoTag)
    (numPagina : Nat) : pedirPagina cfg mc mem queryId f numPagina =
      obtenerPagina cfg mc mem queryId f numPagina := by
  rw [pedirPagina, if_pos (Int.natCast_nonneg numPagina), Int.toNat_natCast]

theorem recorrerPaginas_natural (queryId : Int) (f : ArchivoTag) (escritura : Option Bytes)
    (paginas pagina despl restantes procesados : Nat) (leido : Bytes) (mem : MemoriaInterna) :
    recorrerPaginas cfg mc queryId f escritura (paginas + 1) pagina despl restantes procesados
        leido mem =
      (if restantes = 0 then .done ⟨mem, leido, procesados, true, false⟩
      else do
        let enPagina := if cfg.tamanioPagina < despl + restantes then cfg.tamanioPagina - despl
          else restantes
        let (entrada, mem) ← obtenerPagina cfg mc mem queryId f pagina
        match entrada.bind fun p => (mem.heap p).map fun e => (p, e) with
        | none => .done ⟨mem, leido, procesados, false, false⟩
        | some (p, e) =>
          let mem := tocarPagina cfg mem p e escritura.isSome
          match escritura with
          | some contenido =>
            recorrerPaginas cfg mc queryId f escritura paginas (pagina + 1 : Nat) (0 : Nat)
              (restantes - enPagina) (procesados + enPagina) leido
              (copiarEnMarco mem e.marco despl ((contenido.drop procesados).take enPagina))
          | none =>
            recorrerPaginas cfg mc queryId f escritura paginas (pagina + 1 : Nat) (0 : Nat)
              (restantes - enPagina) (procesados + enPagina)
              (leido ++ ((mem.arena e.marco).drop despl).take enPagina) mem) := by
  have inside : ∀ m : Nat, ¬ ((m : Int) * cfg.tamanioPagina + despl < 0 ∨ restantes <
      if cfg.tamanioPagina < despl + restantes then cfg.tamanioPagina - despl else restantes) := by
    intro m
    have start := Int.natCast_nonneg (m * cfg.tamanioPagina + despl)
    rw [Int.natCast_add, Int.natCast_mul] at start
    split <;> omega
  rw [recorrerPaginas, pedirPagina_natural, bytesEnPagina_natural]
  simp only [if_neg (inside _), copiarDesde, leerDesde, Int.natCast_nonneg, if_true,
    Int.toNat_natCast]
  cases escritura <;> rfl

theorem accederMemoria_natural (mem : MemoriaInterna) (queryId : Int) (f : ArchivoTag)
    (offset tam : Nat) (escritura : Option Bytes) :
    accederMemoria cfg mc mem queryId f offset tam escritura =
      if tam = 0 then .done ⟨mem, [], 0, false, false⟩
      else
        recorrerPaginas cfg mc queryId f escritura (vueltasDe cfg offset tam)
          (offset / cfg.tamanioPagina : Nat) (offset % cfg.tamanioPagina : Nat) tam 0 [] mem := by
  rw [accederMemoria, numPaginaInicial, Int.tdiv_eq_ediv_of_nonneg (Int.natCast_nonneg offset),
    Int.tmod_eq_emod_of_nonneg (Int.natCast_nonneg offset)]
  rfl

end WorkerEntradas
