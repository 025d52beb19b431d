import TableAtlas.Configuration.Basic
import TableAtlas.Schema.Codec

/-!
# Configurations as JSON

The form of a configuration file.
-/

namespace TableAtlas

open Codec (Field)

def Configuration.codec : Codec Configuration :=
  Codec.record "DbConfiguration"
    [Flavor, String, Option UInt16, String, String, String, SortedMap String]
    (.required "dbType" Flavor.codec, .defaulted "host" .string Configuration.defaultHost,
      .defaulted "port" (.option .uint16) none, .required "user" .string,
      .defaulted "password" .string "", .required "database" .string,
      .defaulted "tableLabelColumns" (.sortedMap .string) ∅, ())
    (fun c => (c.flavor, c.host, c.port, c.user, c.password, c.database, c.labelColumns, ()))
    (fun (flavor, host, port, user, password, database, labelColumns, ()) =>
      { flavor, host, port, user, password, database, labelColumns })

def Listen.codec : Codec Listen :=
  Codec.record "ServeConfig"
    [String, UInt16]
    (.required "hostname" .string, .required "port" .uint16, ())
    (fun l => (l.hostname, l.port, ()))
    (fun (hostname, port, ()) => { hostname, port })

def ServerConfiguration.codec : Codec ServerConfiguration :=
  Codec.record "ServerConfig"
    [Listen, Configuration]
    (.required "serve" Listen.codec, .required "db" Configuration.codec, ())
    (fun c => (c.listen, c.database, ()))
    (fun (listen, database, ()) => { listen, database })

end TableAtlas
