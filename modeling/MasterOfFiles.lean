import MasterOfFiles.Storage.Aislamiento
import MasterOfFiles.Storage.Contenidos
import MasterOfFiles.Storage.Fugas
import MasterOfFiles.Worker.Desenlaces
import MasterOfFiles.Master.Libro
import MasterOfFiles.Sistema.Interrupciones
import MasterOfFiles.Storage.BloqueCero
import MasterOfFiles.Storage.Deduplicados
import MasterOfFiles.Storage.MapaEnDisco
import MasterOfFiles.Master.Despertares
import MasterOfFiles.Worker.Acuses
import MasterOfFiles.Worker.Transparencia
import MasterOfFiles.Worker.Vigentes
import MasterOfFiles.Lib.LockOrder
import MasterOfFiles.Storage.Cerrojos
import MasterOfFiles.Storage.Disciplina
import MasterOfFiles.Storage.Interbloqueo
import MasterOfFiles.Storage.Exclusion
import MasterOfFiles.Worker.Lectura
import MasterOfFiles.Protocolo.Paquetes
import MasterOfFiles.Storage.Bajas
import MasterOfFiles.Storage.Rechazos
import MasterOfFiles.Storage.DosEscrituras
import MasterOfFiles.Worker.Entradas
import MasterOfFiles.Worker.EnPaso
import MasterOfFiles.Sistema.Volcado
import MasterOfFiles.Storage.Truncados
import MasterOfFiles.Storage.DeleteYFlush
import MasterOfFiles.Sistema.Desalojos
import MasterOfFiles.Worker.Reloj
import MasterOfFiles.Worker.Recencia
import MasterOfFiles.Storage.TextoDeBloques
import MasterOfFiles.Master.Turnos
import MasterOfFiles.Protocolo.Recepcion
import MasterOfFiles.Worker.Decodificacion
import MasterOfFiles.Worker.Rastros
import MasterOfFiles.Worker.Direcciones
import MasterOfFiles.Lib.Paths
import MasterOfFiles.Storage.Rutas
import MasterOfFiles.Storage.Versiones
import MasterOfFiles.Storage.Simultaneos
import MasterOfFiles.Protocolo.Valores
import MasterOfFiles.Sistema.EnLinea
import MasterOfFiles.QueryControl.Pedido
import MasterOfFiles.Master.Envejecimiento
import MasterOfFiles.Lib.LruStack
import MasterOfFiles.Worker.Fallos
import MasterOfFiles.QueryControl.Lecturas
import MasterOfFiles.Master.Buzones
import MasterOfFiles.Sistema.Contrato
