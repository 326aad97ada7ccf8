import GeoAlchemy2.Python.Runtime
import GeoAlchemy2.Python.Binascii
import GeoAlchemy2.Python.Numbers
import GeoAlchemy2.Python.Struct
import GeoAlchemy2.Elements.Ewkb
import GeoAlchemy2.Elements.Wkb
import GeoAlchemy2.Elements.WkbLaws
import GeoAlchemy2.Elements.WkbRuns
import GeoAlchemy2.Elements.WkbTwins
import GeoAlchemy2.Elements.Wkt
import GeoAlchemy2.Elements.WktLaws
import GeoAlchemy2.Elements.WktRuns
import GeoAlchemy2.Elements.Raster
import GeoAlchemy2.Elements.Pickle
import GeoAlchemy2.Elements.WkbGeometry
import GeoAlchemy2.Raster.Header
import GeoAlchemy2.Raster.Band
import GeoAlchemy2.Raster.Image
import GeoAlchemy2.Raster.Layout
import GeoAlchemy2.Raster.Errors
import GeoAlchemy2.Raster.Trailing
