import MasterOfFiles.Storage.Escritura

/-!
memoria.c: the frames of a Worker, its page tables and the two replacement algorithms. A
page entry is named by the frame it is in, which is free when it has no entry; `arena m` is
the part of memory_arena that belongs to frame m. An access here has an offset that is not
negative, with which it stays in its pages; Entradas and Direcciones have any int.
-/
namespace WorkerMemoria
open StorageEstado StorageEscritura

/-- A file name with no ':' in it; aux_separar_file_tag cuts names at the first one. -/
abbrev Archivo := { f : FileTag // ':' ∉ f.file.texto.toList }

def claveFileTag (f : Archivo) : String := f.val.file.texto ++ ":" ++ f.val.tag.texto

theorem clave_partes {a b t u : String} (ha : ':' ∉ a.toList) (hb : ':' ∉ b.toList)
    (same : a ++ ":" ++ t = b ++ ":" ++ u) : a = b ∧ t = u := by
  have lists : a.toList ++ ':' :: t.toList = b.toList ++ ':' :: u.toList := by
    simpa using congrArg String.toList same
  have cut {l : List Char} (hl : ':' ∉ l) (r : List Char) :
      (l ++ ':' :: r).takeWhile (· ≠ ':') = l ∧
        (l ++ ':' :: r).dropWhile (· ≠ ':') = ':' :: r := by
    have before : ∀ c ∈ l, decide (c ≠ ':') = true := by
      intro c hc
      rw [decide_eq_true_eq]
      rintro rfl
      exact hl hc
    rw [List.takeWhile_append_of_pos before, List.dropWhile_append_of_pos before]
    simp
  constructor
  · apply String.toList_inj.mp
    rw [← (cut ha t.toList).1, lists, (cut hb u.toList).1]
  · apply String.toList_inj.mp
    have tails : ':' :: t.toList = ':' :: u.toList := by
      rw [← (cut ha t.toList).2, lists, (cut hb u.toList).2]
    exact (List.cons.inj tails).2

inductive Algoritmo where
  | lru
  | clockM
  deriving DecidableEq

/-- What crear_memoria is given, with the block size that Storage announced. -/
structure ConfigMemoria where
  tamanioMemoria : Nat
  tamanioPagina : Nat
  algoritmo : Algoritmo
  pagina_pos : 0 < tamanioPagina
  un_marco : tamanioPagina ≤ tamanioMemoria

def ConfigMemoria.cantidadMarcos (cfg : ConfigMemoria) : Nat :=
  cfg.tamanioMemoria / cfg.tamanioPagina

/-- An int, or a result out of its range, converted to size_t. -/
def aSizeT (i : Int) : Nat := (i % 18446744073709551616).toNat

/-- A size_t converted to int. -/
def aInt (u : Nat) : Int :=
  if u % 4294967296 < 2147483648 then (u % 4294967296 : Nat)
  else (u % 4294967296 : Nat) - 4294967296

def numPaginaInicial (cfg : ConfigMemoria) (offset : Int) : Int := offset.tdiv cfg.tamanioPagina

def numPaginaFinal (cfg : ConfigMemoria) (offset : Int) (tam : Nat) : Int :=
  aInt (aSizeT (offset + tam - 1) / cfg.tamanioPagina)

structure EntradaPagina where
  archivo : Archivo
  numeroPagina : Nat
  modificada : Bool

structure Memoria where
  arena : Nat → Bytes
  marcos : Nat → Option EntradaPagina
  tablasPaginas : String → List Nat
  lruList : List Nat
  puntero : Nat
  bitsReferencia : Nat → Bool
  bitsModificados : Nat → Bool

def crearMemoria (cfg : ConfigMemoria) : Memoria where
  arena := fun _ => List.replicate cfg.tamanioPagina 0
  marcos := fun _ => none
  tablasPaginas := fun _ => []
  lruList := []
  puntero := 0
  bitsReferencia := fun _ => false
  bitsModificados := fun _ => false

/-- The replies of Storage to STORAGE_READ_BLOCK and STORAGE_FLUSH, the latter with what it
    leaves behind. -/
structure Servidor (σ : Type) where
  leerBloque : σ → FileTag → Int → Option Bytes
  flush : σ → FileTag → List Pagina → Int → Bool × σ

/-- The memory and the Storage on socket_storage; rechazados keeps the STORAGE_FLUSH packets
    that were answered with an error. -/
structure Nodo (σ : Type) where
  mem : Memoria
  storage : σ
  rechazados : List (FileTag × List Pagina)

variable {σ : Type} (srv : Servidor σ) (cfg : ConfigMemoria)

def entradaDe (mem : Memoria) (f : Archivo) (numPagina : Nat) : Option Nat :=
  (mem.tablasPaginas (claveFileTag f)).find? fun m =>
    (mem.marcos m).any fun e => e.numeroPagina == numPagina

def buscarPagina (mem : Memoria) (f : Archivo) (numPagina : Nat) : Option Nat × Memoria :=
  match entradaDe mem f numPagina with
  | none => (none, mem)
  | some m =>
    (some m, if cfg.algoritmo = .lru then { mem with lruList := mem.lruList.erase m ++ [m] }
      else mem)

def encontrarMarcoLibre (mem : Memoria) : Option Nat :=
  (List.range cfg.cantidadMarcos).find? fun m => (mem.marcos m).isNone

def tomarModificada (paquete : Memoria × List Pagina) (m : Nat) : Memoria × List Pagina :=
  match paquete.1.marcos m with
  | none => paquete
  | some e =>
    if e.modificada then
      ({ paquete.1 with
          marcos := Function.update paquete.1.marcos m (some { e with modificada := false })
          bitsModificados := if cfg.algoritmo = .clockM
            then Function.update paquete.1.bitsModificados m false
            else paquete.1.bitsModificados },
        paquete.2 ++ [((e.numeroPagina : Int), paquete.1.arena m)])
    else paquete

def paginasModificadas (mem : Memoria) (f : Archivo) : Memoria × List Pagina :=
  (mem.tablasPaginas (claveFileTag f)).foldl (tomarModificada cfg) (mem, [])

def flushPaginasModificadas (n : Nodo σ) (f : Archivo) : Bool × Nodo σ :=
  let (mem, paginas) := paginasModificadas cfg n.mem f
  let (ok, storage) := srv.flush n.storage f.val paginas paginas.length
  (ok, ⟨mem, storage, if ok then n.rechazados else n.rechazados ++ [(f.val, paginas)]⟩)

def liberarMarco (mem : Memoria) (m : Nat) (e : EntradaPagina) : Memoria :=
  { mem with
    tablasPaginas := Function.update mem.tablasPaginas (claveFileTag e.archivo)
      ((mem.tablasPaginas (claveFileTag e.archivo)).erase m)
    marcos := Function.update mem.marcos m none }

/-- What both algorithms do with their victim. The reply of the flush is not looked at. -/
def desalojar (n : Nodo σ) (m : Nat) (e : EntradaPagina) : Nodo σ :=
  let n := if e.modificada then (flushPaginasModificadas srv cfg n e.archivo).2 else n
  { n with mem := liberarMarco n.mem m e }

/-- `none` stands for the access through a null entry. -/
def aplicarLru (n : Nodo σ) : Option Nat × Nodo σ :=
  match n.mem.lruList with
  | [] => (some 0, n)
  | victima :: resto =>
    match n.mem.marcos victima with
    | none => (none, n)
    | some e => (some victima,
        desalojar srv cfg { n with mem := { n.mem with lruList := resto } } victima e)

def vuelta (inicio : Nat) : List Nat :=
  (List.range cfg.cantidadMarcos).map fun i => (inicio + i) % cfg.cantidadMarcos

/-- The second turn of the clock resets the reference bits on its way. -/
def segundaVuelta (mem : Memoria) : List Nat → Option Nat × Memoria
  | [] => (none, mem)
  | m :: resto =>
    if mem.bitsReferencia m = false ∧ mem.bitsModificados m = true then (some m, mem)
    else segundaVuelta { mem with bitsReferencia := Function.update mem.bitsReferencia m false }
      resto

/-- The four turns, all of them from where the pointer stood at first. -/
def elegirVictima (mem : Memoria) : Option Nat × Memoria :=
  let turno := vuelta cfg mem.puntero
  let limpia (mem : Memoria) := turno.find? fun m =>
    !mem.bitsReferencia m && !mem.bitsModificados m
  match limpia mem with
  | some m => (some m, mem)
  | none =>
    match segundaVuelta mem turno with
    | (some m, mem) => (some m, mem)
    | (none, mem) => ((limpia mem).or (turno.find? fun m => !mem.bitsReferencia m), mem)

def aplicarClockM (n : Nodo σ) : Option Nat × Nodo σ :=
  match (vuelta cfg n.mem.puntero).find? fun m => (n.mem.marcos m).isNone with
  | some m => (some m, { n with mem := { n.mem with puntero := (m + 1) % cfg.cantidadMarcos } })
  | none =>
    match elegirVictima cfg n.mem with
    | (none, mem) => (none, { n with mem := mem })
    | (some victima, mem) =>
      let mem := { mem with puntero := (victima + 1) % cfg.cantidadMarcos }
      match mem.marcos victima with
      | none => (none, { n with mem := mem })
      | some e =>
        let n := desalojar srv cfg { n with mem := mem } victima e
        (some victima, { n with mem := { n.mem with
          bitsReferencia := Function.update n.mem.bitsReferencia victima false
          bitsModificados := Function.update n.mem.bitsModificados victima false } })

def marcoParaCargar (n : Nodo σ) : Option Nat × Nodo σ :=
  match encontrarMarcoLibre cfg n.mem with
  | some m => (some m, n)
  | none =>
    match cfg.algoritmo with
    | .lru => aplicarLru srv cfg n
    | .clockM => aplicarClockM srv cfg n

def registrarPagina (mem : Memoria) (m : Nat) (f : Archivo) (numPagina : Nat) (bloque : Bytes) :
    Memoria where
  arena := Function.update mem.arena m (bloque.take cfg.tamanioPagina)
  marcos := Function.update mem.marcos m (some ⟨f, numPagina, false⟩)
  tablasPaginas := Function.update mem.tablasPaginas (claveFileTag f)
    (mem.tablasPaginas (claveFileTag f) ++ [m])
  lruList := if cfg.algoritmo = .lru then mem.lruList ++ [m] else mem.lruList
  puntero := mem.puntero
  bitsReferencia := if cfg.algoritmo = .clockM then Function.update mem.bitsReferencia m true
    else mem.bitsReferencia
  bitsModificados := if cfg.algoritmo = .clockM then Function.update mem.bitsModificados m false
    else mem.bitsModificados

/-- The victim is gone before the block is asked for. -/
def cargarPagina (n : Nodo σ) (f : Archivo) (numPagina : Nat) : Option Nat × Nodo σ :=
  match marcoParaCargar srv cfg n with
  | (none, n) => (none, n)
  | (some m, n) =>
    match srv.leerBloque n.storage f.val numPagina with
    | none => (none, n)
    | some bloque => (some m, { n with mem := registrarPagina cfg n.mem m f numPagina bloque })

def obtenerPagina (n : Nodo σ) (f : Archivo) (numPagina : Nat) : Option Nat × Nodo σ :=
  match buscarPagina cfg n.mem f numPagina with
  | (some m, mem) => (some m, { n with mem := mem })
  | (none, _) =>
    match cargarPagina srv cfg n f numPagina with
    | (none, n) => (none, n)
    | (some _, n) =>
      let (m, mem) := buscarPagina cfg n.mem f numPagina
      (m, { n with mem := mem })

def tocarPagina (mem : Memoria) (m : Nat) (esEscritura : Bool) : Memoria :=
  { mem with
    marcos := if esEscritura then Function.update mem.marcos m
        ((mem.marcos m).map fun e => { e with modificada := true })
      else mem.marcos
    bitsReferencia := if cfg.algoritmo = .clockM then Function.update mem.bitsReferencia m true
      else mem.bitsReferencia
    bitsModificados := if cfg.algoritmo = .clockM ∧ esEscritura
      then Function.update mem.bitsModificados m true else mem.bitsModificados }

def copiarEnMarco (mem : Memoria) (m despl : Nat) (parcial : Bytes) : Memoria :=
  { mem with
    arena := Function.update mem.arena m
      ((mem.arena m).take despl ++ parcial ++ (mem.arena m).drop (despl + parcial.length)) }

/-- `completo` when the loop of acceder_memoria reached its end. -/
structure Acceso (σ : Type) where
  nodo : Nodo σ
  leido : Bytes
  procesados : Nat
  completo : Bool

/-- The loop of acceder_memoria; its first argument counts the pages up to num_pagina_final,
    `escritura` is the text to write. -/
def recorrerPaginas (f : Archivo) (escritura : Option Bytes) :
    Nat → Nat → Nat → Nat → Nat → Bytes → Nodo σ → Acceso σ
  | 0, _, _, _, procesados, leido, n => ⟨n, leido, procesados, true⟩
  | paginas + 1, paginaActual, desplActual, restantes, procesados, leido, n =>
    if restantes = 0 then ⟨n, leido, procesados, true⟩
    else
      let enPagina := if cfg.tamanioPagina < desplActual + restantes
        then cfg.tamanioPagina - desplActual else restantes
      match obtenerPagina srv cfg n f paginaActual with
      | (none, n) => ⟨n, leido, procesados, false⟩
      | (some m, n) =>
        let mem := tocarPagina cfg n.mem m escritura.isSome
        match escritura with
        | some contenido =>
          let mem := copiarEnMarco mem m desplActual ((contenido.drop procesados).take enPagina)
          recorrerPaginas f escritura paginas (paginaActual + 1) 0 (restantes - enPagina)
            (procesados + enPagina) leido { n with mem := mem }
        | none =>
          let visto := ((mem.arena m).drop desplActual).take enPagina
          recorrerPaginas f escritura paginas (paginaActual + 1) 0 (restantes - enPagina)
            (procesados + enPagina) (leido ++ visto) { n with mem := mem }

def accederMemoria (n : Nodo σ) (f : Archivo) (offset tam : Nat) (escritura : Option Bytes) :
    Acceso σ :=
  if tam = 0 then ⟨n, [], 0, false⟩
  else
    let inicial := offset / cfg.tamanioPagina
    let final := (offset + tam - 1) / cfg.tamanioPagina
    recorrerPaginas srv cfg f escritura (final - inicial + 1) inicial
      (offset % cfg.tamanioPagina) tam 0 [] n

def cadena (contenido : Bytes) : Bytes := contenido.takeWhile (· ≠ 0)

def executeWrite (n : Nodo σ) (f : Archivo) (direccionBase : Nat) (contenido : Bytes) :
    Acceso σ :=
  accederMemoria srv cfg n f direccionBase (cadena contenido).length (some (cadena contenido))

/-- No buffer of a negative size can be allocated. -/
def executeRead (n : Nodo σ) (f : Archivo) (direccionBase : Nat) (tamanio : Int) : Acceso σ :=
  accederMemoria srv cfg n f direccionBase tamanio.toNat none

def executeFlush (n : Nodo σ) (f : Archivo) : Nodo σ := (flushPaginasModificadas srv cfg n f).2

end WorkerMemoria
