/-!
# Names of characters from C to D

The names and other names of characters that begin with these letters, written
as the module `Chip8.Text.CharacterName` says.
-/

namespace Chip8.Text.CharacterName

def namesCToD : List String := [
    "aCACTUSeDA UNAfUCEUSgLENDARfL ME HANDkMERAa WITH FLASHoPINGfN",
    "aADIAN SYLLABICS AaAaIbYcIaVILIK BiNbTHAPASCAN MbSlYcBEAVER DENE LbR",
    "mIBLE-CREE YlLACKFOOT AbEbIbKAbEbIbOcNAbEbIbOcObSbWaAbEbIbOmCaAaAaI",
    "cRRIER CHAbEaEcIbObUdDEEbNE GEEfTAL ShIbLAbEaEcIbObUcZAbEaEcIbObUdEEcGA",
    "aAcEaEcHAbEaEcIbObUcIbObUbWAbUdHaEEcIbWAbEaEcIbObUdIaNITIAL ZjJAbEaEcI",
    "bJAbEaEcIbObUcObUbWAdKHAbEaEcIbObUcKaAbEaEcIbObUdLAbEaEcHAbEaEcIbObUcIbO",
    "bUcMAbEaEcIbObUcNAbEaEcGbIbObUcPaAbEaEcIbObUcRAbEaEcIbObUcSAbEaEcHaAbEaE",
    "cIbObUcIbObUcTHAbEaEcIbObUcLAbEaEcHAbEaEcIbObUcIbObUcSAbEaEcIbObUcTAbEaE",
    "cIbObSAbEaEcIbObUcUdWAbEaEcIbObUcYAbEaEcIbObUcZaAbEaEcIbObUjEbHI SIGNhI",
    "aIcOaOcWAaAcEbIaIcOaOeEaASTERN WiNcFaAaAaIdEbIaIbNAL ACUTE",
    "fBOTTOM HALF RINGqDOUBLE ACUTEfSHORT VERTICAL STROKESzcWN TACKjGRAVE",
    "fMIDDLE DOTkPLUSeRAISED DOTjIGHT HALF RINGnNGeSHORT HORIZONTAL STROKE",
    "wMALL RINGkTOP HALF RINGsOaOcULL STOPiWAAeGLOTTAL STOPmHKbYPHENgIaIbNcK",
    "aAaAaIcYcEbIaIcOaOcWaAaAbYcEbIaIcOaOeLaAaAaIcYcEbHaAaAcIaIcOaOdIaIcOaO",
    "cWAaAcEbIaIcOaOeMaAaAaIcYcEaDIAL LbRhHbIaIcOaOaSE-CREE SKmWAaAcEbIaIcOaO",
    "eNa-CREE THEbIaIkAaAaIcSKAPI CWAAeKWAAeMWAAeNWAAeS-WcCWAdKWaAdPWAdTWA",
    "dWAAeTWAAeWAAcOOdYWAAkTTILIK HAaAcIaIcOaOdSHRAaAcIaIcOaOmYcEbGaAaAaIcIcI",
    "aIcOaOdHbIaIcNGaAaAcIaIcOaOeOaObYcUNAVIK HaAaAcEbIaIcOaOgUT HiWAaAcEbIaI",
    "cOaOeOaJIBWAY CbKbMbNaWIaIcOaOePbSaHcTiNbObYcPaAaAaIcYcEbIaIcOaObYcWAaA",
    "cEbIaIcOaObYeQaAaAaIcIcIaIcOaOdRa-CREE REbWEjAaAaIcYcEbIaIcOaOcWAaAcEEcI",
    "aIcOaOeSaAaAaIcYaISI HAbEbIbOaOdJIbUaUdMbSHAbEbIbOaOcWEeTHcYIiEbHaAaAbY",
    "cEbIaIcOaObYcWAaAcEbIaIcOaObYeIaIcOaObUTH-SLAVEY KAHcEHcIHcOHoYcPAbEbIbO",
    "cWaAaAcEbIaIcOaOeTaAaAaIcYcEbHa-CREE THaAaAcEbIaIcOaOkAaAcEbIaIcOaOcWAaA",
    "cEdIaIcLHAbEbIbOaOcWEeOaOcTAbEbHaAaAcEbIbOaOcWEdIbOcWAaAcEbIaIcOaOdYAbE",
    "bIbOdWAaAbYcEaST-CREE CWAaAcEbIaIcOaOeFWAAeKWAaAcEbIaIcOaOeLaAaAcEbOaO",
    "cWAaAcEbIaIcOaOeMaWAaAcEbIaIcOaOeNWAaAcEdPaWAaAcEbIaIcOaOeRaAbEbIbObWAA",
    "eSHWAaAcEbIaIcOaOeWAaAcEbIaIcOaOeTHWAAeWAaAcEbIaIcOaOeWAaAcEbIaIcOaOdY",
    "aWAaAcEbIaIcOaOkERN WiIaIcOaOaDS-CREE FINAL THiTHaAbEbIbObWAaAcEEcIaIcO",
    "aOqYa-CREE COOdKOOdLOOdMOOdNOOdOOcPOOcWAAeSOOdTOOdWbYOOjAaAaIcYcEbIaIcO",
    "aObYcWAaAcEbIaIcOaOuCELa CHARACTERjTAGeLATION XjRdDLEcYcNED FOODiOE",
    "dPITULUMgRICORNhR SLIDINGiD FILE BOXiINDEXa DIVIDERSqE OFdT",
    "a INSERTION POINTsIAN LETTER Aa2cBbC-18c39eDa2cEa2cGa2cIaIcKa2cLaDa2dMaB",
    "a2b3b4dNaDbGbNcObPa2cQbRaRcSaHa2cSbTa2dTaTa2dUaUaUa2b3bUeXmONbUSEL HORSE",
    "lP STREAMERjENTRY SAWkRIAGE RETURNlOTeSTLEeTa FACEa WITH TEARS OF JOY",
    "mWRY SMILEvUCASIAN ALBANIAN CITATION MARKnLETTER ALTcORdBETdCARbYNdHAaT",
    "cIbOYdYAWbYeDATcYANdZAYcYAYfEBbYNdFAMdGHEYSeIMdHEYTeINYAdRBcWNdJAYNdHOX",
    "eKARcIWdLANcYITeMAQdNOWCeONcPENcIWReQARbYdRATdSEYKdHAaKcOYeTAScIWRdYAY",
    "eVEYZeXEYNeYAYDdOWDeZARLdHAbILzcTION SIGNlCHcEDI SIGNfLLAfLTIC CROSS",
    "kNT SIGNfRE LINE SYMBOLmLINE LOW LINEiOVERLINErRESeGJcHAINScR",
    "cKMA AU MARKhDANDAeIGIT EIGHTfFIVEdOUReNINEeONEdSEVENeIXdTHREEeWOdZERO",
    "jOUBLE DANDAmLETTER AAcBAAcHAAeCAAcHAAeDAAcDAAcHAAeHAAeEbGAAcHAAeHAAdI",
    "bJAAcHAAeKAAcHAAeLAAcHAAeMAAdNAAcGAAdNAAdYAAePAAcHAAeRAAdSAAdTAAcHAAdTAA",
    "cHAAfUbVAAdWAAdYAAcYAAlMAAYYAAhO MARKgQUESTION MARKnSECTION MARK",
    "lIGN ANUSVARAiCANDRABINDUlVISARGAmVIRAMAfOWEL SIGN AaAbIbUcEaIcIaIcOaIcU",
    "aUrM CONSONANT SIGN FINAL HbMbNGiLAcRAcWAcYArDIGIT EIGHTfFIVEdOUReNINE",
    "eONEdSEVENeIXdTHREEeWOdZEROkLETTER AaIcBAbBAcHAdCHAbHAeDAbDAcHAdE",
    "bFINAL CHcGbKbLbNaGcPbRbSScTbYhGAbHAdHAcIbJAbHAdKAbHAdLAcMAbUEdNAbGAbUE",
    "dHAbJAcUEdUEdObPAbHAcPAdRAcSAbSAdTAbHAdUbVAcYAjPUNCTUATION DANDA",
    "eOUBLE DANDAmSPIRALgTRIPLE DANDAyVOWEL SIGN AAbIbUcEIcIaIcOaEcUaE",
    "pRACTER TABULATIONa SETdWITH JUSTIFICATIONzdIEjT WITH DOWNWARDS TREND",
    "pUPWARDS TRENDa AND YEN SIGNzkECK MARKfER BOARDa FILLpERING MEGAPHONE",
    "oSE WEDGEjQUERED FLAGlROKEE LETTER AbDAbEbIbLAcObUbVcEbGAbEbIbObUbVcHAbE",
    "bIbNAcObUbVcIbKAcLAbEbIbObUbVcMAbEbIbObUbVcNAaHcEbIbObUbVcObQUAbEbIbObU",
    "bVdSaAbEbIbObUbVcTAbEbIbLAbEbIbObUbVcSAbEbIbObUbVdUbVbWAbEbIbObUbVcYAbE",
    "bIbObUbVjSMALL LETTER AbDAbEbIbLAcObUbVcEbGAbEbIbObUbVcHAbEbIbNAcObUbVcI",
    "bKAcLAbEbIbObUbVcMAbEbIbObUbVcNAaHcEbIbObUbVcObQUAbEbIbObUbVdSaAbEbIbObU",
    "bVcTAbEbIbLAbEbIbObUbVcSAbEbIbObUbVdUbVbWAbEbIbObUbVcYAbEbIbObUbVuRIES",
    "dY BLOSSOMlSTNUTgI RHOeCKENeLDaREN CROSSINGoPMUNKfRONeOCOLATE BAR",
    "kPSTICKShRASMIAN LETTER ALEPHeYINeBETHeCURLED WAWkDALETHgGIMELfHEaTH",
    "eKAPHeLAMEDHgMEMdNUNdPEcRESHeSAMEKHfHINdMALL ALEPHlTAWdWAWdYODHeZAYIN",
    "mNUMBER FOUReONEa HUNDREDlTENcHREEeWENTYeOtRISTMAS TREEmURCHfINEMA",
    "eRCLE DIVIDED BY HORIZONTAL BAR AND TOP HALF DIVIDED BY VERTICAL BARzz",
    "mWITH ALL BUT UPPER LEFT QUADRANT BLACKziHORIZONTAL BARoLEFT HALF BLACK",
    "oOWER HALF BLACKqRIGHT HALF BLACKqSMALL CIRCLE TO THE RIGHT",
    "yUPERIMPOSED XoTWO HORIZONTAL STROKES TO THE RIGHTzkUPPER HALF BLACK",
    "kRIGHT QUADRANT BLACKzbVERTICAL FILLtD ANTICLOCKWISE ARROW",
    "g-ROTATED DIVISION SIGNzjSTERISK OPERATORrBOLD XfULLET",
    "gC WITH OVERLAID BACKSLASHyCbDbROSS FORMEEa WITH FOUR DOTSjTWO DOTS",
    "uPOMMEEhING LANESoDASHdIGIT EIGHTfFIVEdOUReNINEeONEdSEVENeIXdTHREEeWO",
    "dZEROiVISION SIGNdLASHnOLLAR SIGN WITH OVERLAID BACKSLASHziT OPERATOR",
    "mEQUALSgGREATER-THANmHANGUL CHIEUCHa AiIEUCa AhHIEUHa AhIEUNGa AbU",
    "hKHIEUKHa AiIYEOKa AiMIEUMa AhNIEUNa AhPHIEUPHa AiIEUPa AhRIEULa AhSIOS",
    "a AgTHIEUTHa AiIKEUTa AoEAVY WHITE RIGHTWARDS ARROWz",
    "cORIZONTAL BAR WITH NOTCHyUMAN FIGUREmIDEOGRAPH ACCEPTfDVANTAGEiLLIANCE",
    "hTTENTIONjCENTREfONGRATULATIONmPYcRRECThEARTHeIGHTeNTERPRISEjXCELLENT",
    "jFEMALEfINANCIALhREcVEdOUReHAVEdIGHeITEMeKINDERGARTENlOTOeLABOReEFTdOW",
    "dMALEdEDICINEgTALeOONeNAMEdIGHTdNEeONEdPRINTfQUESTIONiRELIGIONgSOURCEfT",
    "dIGHTfSCHOOLfECRETeVENeIXcOCIETYgPECIALgTOCKdUDYeUITABLEgNbPERVISEjTEN",
    "cHREEeWOdWATEReOODnNFORMATION SOURCErTALIC LATIN CAPITAL LETTER CbRz",
    "eKATAKANA AbEbHAbEbIbObUcIbKAbEbIbObUcMAbEbIbObUcNAbEbIbObUcObRAbEbIbObU",
    "cSAbEbIbObUcTAbEbIbObUcUbWAbEbIbOcYAbObUkOREAN CHARACTER CHAMKOgJUEUI",
    "wLATIN CAPITAL LETTER AbBbCbDbEbFbGbHbIbJbKbLbMbNbObPbQbRbSbTbUbVbWbXbY",
    "bZqSMALL LETTER AbBbCbDbEbFbGbHbIbJbKbLbMbNbObPbQbRbSbTbUbVbWbXbYbZ",
    "tESS-THANjMINUSeULTIPLICATION SIGN WITH CIRCUMFLEX ACCENTz",
    "rNUMBER EIGHTEENdY ON BLACK SQUAREvLEVENgFIFTEENdYa ON BLACK SQUAREuORTY",
    "a EIGHTfFIVEdOUReNINEeON BLACK SQUAREnEdSEVENeIXdTHREEeWOhURTEEN",
    "iNINETEENiSEVENTEENdY ON BLACK SQUAREwIXTEENdY ON BLACK SQUAREvTEN",
    "a ON BLACK SQUAREsHIRTEENdYa EIGHTfFIVEdOUReNINEeON BLACK SQUAREnEdSEVEN",
    "eIXdTHREEeWOjWELVEdNTYa EIGHTfFIVEdOUReNINEeON BLACK SQUAREnEdSEVENeIX",
    "dTHREEeWOrOPEN CENTRE EIGHT POINTED STARzfPARALLELhERPENDICULARmLUS",
    "dOSTAL MARKlREVERSE SOLIDUSoING OPERATORnSQUAREgTIMESeRIANGLEa DOWN",
    "nVERTICAL BARmWHITE BULLETgSTARjZcXbZERO WITH SLASHtULATION FUNCTION",
    "pMFLEX ACCENTmS TENTjTYSCAPEa AT DUSKqJK COMPATIBILITY IDEOGRAPH-2F800b1",
    "b2b3b4b5b6b7b8b9bAbBbCbDbEbFc10b1b2b3b4b5b6b7b8b9bAbBbCbDbEbFc20b1b2b3b4",
    "b5b6b7b8b9bAbBbCbDbEbFc30b1b2b3b4b5b6b7b8b9bAbBbCbDbEbFc40b1b2b3b4b5b6b7",
    "b8b9bAbBbCbDbEbFc50b1b2b3b4b5b6b7b8b9bAbBbCbDbEbFc60b1b2b3b4b5b6b7b8b9bA",
    "bBbCbDbEbFc70b1b2b3b4b5b6b7b8b9bAbBbCbDbEbFc80b1b2b3b4b5b6b7b8b9bAbBbCbD",
    "bEbFc90b1b2b3b4b5b6b7b8b9bAbBbCbDbEbFcA0b1b2b3b4b5b6b7b8b9bAbBbCbDbEbF",
    "cB0b1b2b3b4b5b6b7b8b9bAbBbCbDbEbFcC0b1b2b3b4b5b6b7b8b9bAbBbCbDbEbFcD0b1",
    "b2b3b4b5b6b7b8b9bAbBbCbDbEbFcE0b1b2b3b4b5b6b7b8b9bAbBbCbDbEbFcF0b1b2b3b4",
    "b5b6b7b8b9bAbBbCbDbEbFd900b1b2b3b4b5b6b7b8b9bAbBbCbDbEbFc10b1b2b3b4b5b6",
    "b7b8b9bAbBbCbDbEbFc20b1b2b3b4b5b6b7b8b9bAbBbCbDbEbFc30b1b2b3b4b5b6b7b8b9",
    "bAbBbCbDbEbFc40b1b2b3b4b5b6b7b8b9bAbBbCbDbEbFc50b1b2b3b4b5b6b7b8b9bAbBbC",
    "bDbEbFc60b1b2b3b4b5b6b7b8b9bAbBbCbDbEbFc70b1b2b3b4b5b6b7b8b9bAbBbCbDbEbF",
    "c80b1b2b3b4b5b6b7b8b9bAbBbCbDbEbFc90b1b2b3b4b5b6b7b8b9bAbBbCbDbEbFcA0b1",
    "b2b3b4b5b6b7b8b9bAbBbCbDbEbFcB0b1b2b3b4b5b6b7b8b9bAbBbCbDbEbFcC0b1b2b3b4",
    "b5b6b7b8b9bAbBbCbDbEbFcD0b1b2b3b4b5b6b7b8b9bAbBbCbDbEbFcE0b1b2b3b4b5b6b7",
    "b8b9bAbBbCbDbEbFcF0b1b2b3b4b5b6b7b8b9bAbBbCbDbEbFdA00b1b2b3b4b5b6b7b8b9",
    "bAbBbCbDbEbFc10b1b2b3b4b5b6b7b8b9bAbBbCbDfF900b1b2b3b4b5b6b7b8b9bAbBbCbD",
    "bEbFc10b1b2b3b4b5b6b7b8b9bAbBbCbDbEbFc20b1b2b3b4b5b6b7b8b9bAbBbCbDbEbF",
    "c30b1b2b3b4b5b6b7b8b9bAbBbCbDbEbFc40b1b2b3b4b5b6b7b8b9bAbBbCbDbEbFc50b1",
    "b2b3b4b5b6b7b8b9bAbBbCbDbEbFc60b1b2b3b4b5b6b7b8b9bAbBbCbDbEbFc70b1b2b3b4",
    "b5b6b7b8b9bAbBbCbDbEbFc80b1b2b3b4b5b6b7b8b9bAbBbCbDbEbFc90b1b2b3b4b5b6b7",
    "b8b9bAbBbCbDbEbFcA0b1b2b3b4b5b6b7b8b9bAbBbCbDbEbFcB0b1b2b3b4b5b6b7b8b9bA",
    "bBbCbDbEbFcC0b1b2b3b4b5b6b7b8b9bAbBbCbDbEbFcD0b1b2b3b4b5b6b7b8b9bAbBbCbD",
    "bEbFcE0b1b2b3b4b5b6b7b8b9bAbBbCbDbEbFcF0b1b2b3b4b5b6b7b8b9bAbBbCbDbEbF",
    "dA00b1b2b3b4b5b6b7b8b9bAbBbCbDbEbFc10b1b2b3b4b5b6b7b8b9bAbBbCbDbEbFc20b1",
    "b2b3b4b5b6b7b8b9bAbBbCbDbEbFc30b1b2b3b4b5b6b7b8b9bAbBbCbDbEbFc40b1b2b3b4",
    "b5b6b7b8b9bAbBbCbDbEbFc50b1b2b3b4b5b6b7b8b9bAbBbCbDbEbFc60b1b2b3b4b5b6b7",
    "b8b9bAbBbCbDc70b1b2b3b4b5b6b7b8b9bAbBbCbDbEbFc80b1b2b3b4b5b6b7b8b9bAbBbC",
    "bDbEbFc90b1b2b3b4b5b6b7b8b9bAbBbCbDbEbFcA0b1b2b3b4b5b6b7b8b9bAbBbCbDbEbF",
    "cB0b1b2b3b4b5b6b7b8b9bAbBbCbDbEbFcC0b1b2b3b4b5b6b7b8b9bAbBbCbDbEbFcD0b1",
    "b2b3b4b5b6b7b8b9zdRADICAL BAMBOOfLUEdOLT OF CLOTHlNEcXcRUSH ONEdTWO",
    "jC-SIMPLIFIED BIRDeCARTeDRAGONgEATcVENeFISHdLYcROGeGATEdOLDeHORSEfLEAF",
    "dONGeSALTdEEcHELLeILKdPEECHgTANNED LEATHERnOOTHeURTLEgWINDqHOKEeITY",
    "cVILIANhLIFFdOTHESgOWdDEATHeIVINATIONjOGdEAT ONEdTHREEeWOgWEcYEdFIREdOOT",
    "eGHOSTeRASS ONEdTHREEeWOjHANDdEADbRT ONEdTWOiORNeJ-SIMPLIFIED DRAGON",
    "gEVENeTOOTHeURTLEsADEeKNIFE ONEdTWOjLAME FOUReONEdTHREEeWOhONG ONEdTWO",
    "iMEATcSHdOONcRTAReTHEReUND ONEdTWOjNET FOUReONEdTHREEeWOhOLDdPAW ONEdTWO",
    "gERSONgRAINcMbPcEPEATgSEALcCOND ONEdTHREEeWOjHEEPeILK",
    "cMPLIFIED HALF TREE TRUNKoORNeWALKdHEATfYELLOWqMALL ONEdTWOiNAKEdOUT ONE",
    "dTWOiPIRIT ONEdTWOjUNdTABLEeHREADfIGEReURTLEgWALK ONEdTWOgTER ONEdTWO",
    "iEST ONEdTWOqSTROKE BXGdDbHaGbPaWGdXWGdZaGbTbWaGcZaPbZaGfNbPaDbGbZcQbSaG",
    "bPbTbWaGbZcZaWGcZdTaNcWGcXGmLAMSHELL MOBILE PHONEtPPER BOARD",
    "iING HANDS SIGNqSSICAL BUILDINGqEAR SCREEN SYMBOLrINKING BEER MUGS",
    "jGLASSESnPBOARDhOCK FACE EIGHT OCLOCKh-THIRTYlLEVEN OCLOCKh-THIRTY",
    "nFIVE OCLOCKh-THIRTYkOUR OCLOCKh-THIRTYlNINE OCLOCKh-THIRTYlONE OCLOCK",
    "h-THIRTYkSEVEN OCLOCKh-THIRTYlIX OCLOCKh-THIRTYkTEN OCLOCKh-THIRTY",
    "jHREE OCLOCKh-THIRTYlWELVE OCLOCKh-THIRTYlO OCLOCKh-THIRTY",
    "qWISE CLOSED CIRCLE ARROWsONTOUR INTEGRAL",
    "qDOWNWARDS AND UPWARDS OPEN CIRCLE ARROWSzpGAPPED CIRCLE ARROWtINTEGRAL",
    "iOPEN CIRCLE ARROWrRIGHT AND LEFT SEMICIRCLE ARROWSz",
    "cWARDS AND LEFTWARDS OPEN CIRCLE ARROWSa WITH CIRCLED ONE OVERLAYzz",
    "sTOP SEMICIRCLE ARROWtRIANGLE-HEADED OPEN CIRCLE ARROWzpSE UPdD BOOK",
    "eINTERSECTION WITH SERIFSyLOCK WITH KEYnMAILBOX WITH LOWERED FLAG",
    "mRAISED FLAGySUBSETa OR EQUAL TOqPERSETa OR EQUAL TOuUMBRELLA",
    "hNION WITH SERIFSa AND SMASH PRODUCTzoUDa WITH LIGHTNINGjRAINeSNOW",
    "eTORNADOpWN FACEjOATcCKROACHfTAIL GLASSlONUTfFFINeINcLLISION SYMBOLnON",
    "a EQUALSgSIGNiMBINING ACUTE ACCENTa BELOWmTONE MARKk-GRAVE-ACUTElMACRON",
    "lLMOST EQUAL TO ABOVEfBELOWuNNUITY SYMBOLmTICLOCKWISE ARROW ABOVE",
    "lRING OVERLAYzaSTERISK ABOVEfBELOWoBINDU BELOWkREVEa BELOWg-MACRON",
    "kIDGE ABOVEfBELOWmCANDRABINDUjRONa BELOWkEDILLAgIRCUMFLEX ACCENTa BELOW",
    "wLOCKWISE ARROW ABOVElRING OVERLAYvOMMA ABOVEa RIGHTlBELOW",
    "jNJOINING MACRONa BELOWwYRILLIC DASIA PNEUMATAoHUNDRED MILLIONS SIGN",
    "nTHOUSANDS SIGNwKAVYKAgLETTER AbBEbIG YUShCHEdDEbJERVfEFbLbMbNbRbSa-TE",
    "fFITAeGHEdHAaRD SIGNjIaEbOTIFIED AbBIG YUShEkKAcLITTLE YUSkMONOGRAPH UK",
    "mOaMEGAfPEcSHAbCHAeOFT SIGNjTEbSEdUaKRAINIAN IEmVEcYATcERUdIbUcZEbHE",
    "kMILLIONS SIGNnPALATALIZATIONmYEROKgOKRYTIEhSILI PNEUMATA",
    "oTEN MILLIONS SIGNqHOUSAND MILLIONS SIGNvITLOa LEFT HALFjRIGHT HALF",
    "qVZMEToDELETION MARKlVANAGARI DIGIT EIGHTfFIVEdOUReNINEeONEdSEVENeIX",
    "dTHREEeWOdZEROkLETTER AbKAcNAcPAcRAcUbVIjSIGN AVAGRAHAxIAERESISa BELOW",
    "g-RINGnOT ABOVEa LEFTeRIGHTlBELOWa LEFTlTED ACUTE ACCENTmGRAVE ACCENT",
    "rUBLE ACUTE ACCENTmBREVEa BELOWlCIRCUMFLEX ABOVEqGRAVE ACCENT",
    "mINVERTED BREVEa BELOWuLOW LINEiMACRONa BELOWmOPEN MARK BELOWoVERLINE",
    "iPARENTHESES ABOVEqLUS SIGN ABOVEfBELOWpRIGHTWARDS ARROW BELOWuNG BELOW",
    "kTILDEa LEFT HALFjRIGHT HALFqVERTICAL LINE ABOVEfBELOWkSTROKE OVERLAY",
    "yD CIRCUMFLEX ACCENTxWN TACK BELOWlWARDS ARROWpENCLOSING CIRCLE",
    "a BACKSLASHqDIAMONDhKEYCAPgSCREENfQUAREgUPWARD POINTING TRIANGLEz",
    "iQUALS SIGN BELOWrFERMATAgOUR DOTS ABOVEpGLAGOLITIC LETTER AZUdBIG YUS",
    "gUKYeCHRIVIgDJERVIfOBROfFITAdRITUfGLAGOLIhHERUeIaNITIAL IZHE",
    "lOTATED BIG YUShSMALL YUSqZHEeKAKOeLJUDIJEhMYSLITEhNASHIfONUdPOKOJI",
    "gRITSIfSHAbTAdLOVOeMALL YUSjTSIcVRIDOgUKUdVEDEeYATIdERIbUcSTUeObUcZEMLJA",
    "fHIVETEyRANTHA DIGIT FIVEdOUReONEdSIXdTHREEeWOdZEROkLETTER AbKAcNAcPAcVI",
    "oPHEME JOINERmVE ACCENTa BELOWmTONE MARKk-ACUTE-GRAVElMACRON",
    "kEEK DIALYTIKA TONOSpKORONIShMUSICAL PENTASEMEjTETRASEMEiRISEME",
    "pPERISPOMENIlYPOGEGRAMMENItHOMOTHETIC ABOVEoOK ABOVEiRNeINFINITY",
    "gVERTED BREVEa BELOWjIDGE BELOWmDOUBLE ARCH ABOVEfBELOWzaS BELOW",
    "iKATAKANA-HIRAGANA SEMI-VOICED SOUND MARKwVOICED SOUND MARKz",
    "iVYKA ABOVE LEFTeRIGHTsLATIN LETTER SMALL CAPITAL GbLbMbNbR",
    "wSMALL LETTER Aa WITH DIAERESISpEbLPHAeObVcBaETAeCa CEDILLAjDbEaSHcTHdF",
    "aLATTENED OPEN A ABOVEwGbHbIaNSULAR DbGbRbTjKbL",
    "a WITH DOUBLE MIDDLE TILDEzaONG SgMbNbOa WITH DIAERESIS",
    "jLIGHT CENTRALIZATION STROKEzjPbRa BELOWfROTUNDAjSaCHWAfTaURNED W BELOW",
    "oUa WITH DIAERESISjLIGHT CENTRALIZATION STROKEzjVbWa BELOWhXbZ",
    "tEFT ANGLE ABOVEfBELOWkRROW ABOVEfBELOWgHEAD ABOVEfBELOWpHALF RING ABOVE",
    "fBELOWnRPOON ABOVEnPARENTHESIS ABOVE LEFTkBELOW LEFTwRIGHT ARROW ABOVE",
    "fBELOWrTACK BELOWlWARDS ARROW OVERLAYnHARPOON WITH BARB DOWNWARDSz",
    "lIGATURE LEFT HALFa BELOWpRIGHT HALFa BELOW",
    "wHT CENTRALIZATION STROKE BELOWzhONG DOUBLE SOLIDUS OVERLAY",
    "wSOLIDUS OVERLAYoTROKE OVERLAYoVERTICAL LINE OVERLAYyW LINEiMACRON",
    "a BELOWfLEFT HALFa BELOWpRIGHT HALFa BELOWr-ACUTEfBREVEfGRAVE",
    "lINUS SIGN BELOWqNOT TILDE ABOVEoUMBER SIGN ABOVErOGONEKa ABOVE",
    "lLD PERMIC LETTER ANcDOIdNENOEfSIIdZATAvPEN MARK BELOWoVERLINE",
    "iPALATALIZED HOOK BELOWuRENTHESES ABOVEfBELOWfOVERLAYsLUS SIGN ABOVE",
    "fBELOWpRETROFLEX HOOK BELOWsVERSE SOLIDUS OVERLAYqD COMMA ABOVE",
    "tIGHT ARROW ABOVEfBELOWgHEAD ABOVEeND DOWN ARROWHEAD BELOW",
    "uUP ARROWHEAD BELOWwBELOWpHALF RING ABOVEfBELOWnRPOON ABOVE",
    "nPARENTHESIS ABOVE RIGHTlBELOW RIGHTxTACK BELOW",
    "lWARDS HARPOON WITH BARB DOWNWARDSzlNG ABOVEfBELOWfOVERLAYmSEAGULL BELOW",
    "mHORT SOLIDUS OVERLAYoTROKE OVERLAYoVERTICAL LINE OVERLAYzbNAKE BELOW",
    "kQUARE BELOWeRACKETS ABOVEuTRONG CENTRALIZATION STROKE BELOWz",
    "iUSPENSION MARKpTHREE DOTS ABOVEpILDEa BELOWfLEFT HALF BELOWpOVERLAY",
    "hRIGHT HALF BELOWvRIPLE ACUTE ACCENTmDOTdUNDERDOToURNED COMMA ABOVE",
    "sUP TACK ABOVEfBELOWlWARDS ARROW BELOWsR ABOVEhS ABOVE",
    "iVERTICAL LINE ABOVEfBELOWkTILDEoWIDE BRIDGE ABOVEmINVERTED BRIDGE BELOW",
    "yGGLY LINE BELOWrX ABOVEfBELOWg-X BELOWjZIGZAG ABOVEfBELOWtETcMA",
    "bERCIAL ATcMINUS SIGNsPASSdLEMENTgOSITION SYMBOLoRESSIONjNFETTI BALL",
    "jOUNDED FACElUSED FACEkGRUENT WITH DOT ABOVEvICAL TAPERkJUNCTION",
    "iSTRUCTION SIGNeWORKERqTAINS AS MEMBERgNORMAL SUBGROUPa OR EQUAL TOz",
    "fWITH LONG HORIZONTAL STROKEwOVERBAR",
    "hVERTICAL BAR AT END OF HORIZONTAL STROKEzzaINUOUS UNDERLINE SYMBOL",
    "xOUR INTEGRALmROL KNOBSfSEQUENCE INTRODUCERyVENIENCE STOREpOKED RICEhIE",
    "bNGfPTIC CAPITAL LETTER AKHMIMIC KHEImLFAeBOHAIRIC KHEInCROSSED SHEI",
    "kYPTOGRAMMIC EIEdGANGIAgNIcSHEIsDALDAeEIcIALECT-P ALEFeHORIeKAPAeNImEIE",
    "dFEIcIcGAMMAdNGIAgHATEdORIeIAUDAfKAPAdHEIcIcSIdL-SHAPED HAkAULAfMIcNIcO",
    "aLD COPTIC AINdDJAdESHdGANGIAgHAaTcEIcORIeOOUdSHEIcIMAmNUBIAN NGIcYI",
    "dSHIMAfWAUnOUdPIbSIdROcSAMPIeHEIcIMAeIMAdOUdTAUcHETHEgUAcVIDAeZATA",
    "sOMBINING NI ABOVEiSPIRITUS ASPERfLENISyEPACT DIGIT EIGHTfFIVEdOUReNINE",
    "eONEdSEVENeIXdTHREEeWOjNUMBER EIGHT HUNDREDiYgFIFTYdVE HUNDREDlORTY",
    "dUR HUNDREDmNINE HUNDREDiTYgONE HUNDREDlSEVEN HUNDREDiTYgIX HUNDREDiTY",
    "fTENcHIRTYeREE HUNDREDmWENTYeO HUNDREDsTHOUSANDS MARKuFRACTION ONE HALF",
    "qULL STOPjMORPHOLOGICAL DIVIDERvOLD NUBIAN DIRECT QUESTION MARK",
    "uFULL STOPjINDIRECT QUESTION MARKwVERSE DIVIDER",
    "ySMALL LETTER AKHMIMIC KHEImLFAeBOHAIRIC KHEInCROSSED SHEI",
    "kYPTOGRAMMIC EIEdGANGIAgNIcSHEIsDALDAeEIcIALECT-P ALEFeHORIeKAPAeNImEIE",
    "dFEIcIcGAMMAdNGIAgHATEdORIeIAUDAfKAPAdHEIcIcSIdL-SHAPED HAkAULAfMIcNIcO",
    "aLD COPTIC AINdDJAdESHdGANGIAgHAaTcEIcORIeOOUdSHEIcIMAmNUBIAN NGIcYI",
    "dSHIMAfWAUnOUdPIbSIdROcSAMPIeHEIcIMAeIMAdOUdTAUcHETHEgUAcVIDAeZATA",
    "qYMBOL KAIcHI ROgMI ROfPI ROfSHIMA SIMAjTAUROShTAU ROrYLEFT SYMBOL",
    "lRIGHT SIGNmRALcNISH VERSE DIVIDERsRESPONDS TOmUCH AND LAMPlNTERBORE",
    "eSINKgING ROD TENS DIGIT EIGHTfFIVEdOUReNINEeONEdSEVENeIXdTHREEeWO",
    "oUNIT DIGIT EIGHTfFIVEdOUReNINEeONEdSEVENeIXdTHREEeWOyPLE WITH HEARTpW",
    "a FACEhRaABcEDIT CARDiSCENT MOONlICKETa BAT AND BALLsOCODILEgISSANT",
    "gSS MARKeOF JERUSALEMjLORRAINElPATTY WITH LEFT CROSSBARnRIGHT CROSSBAR",
    "yOMMEEa WITH HALF-CIRCLE BELOWzfED FLAGS",
    "fNEGATIVE SQUARED LATIN CAPITAL LETTER PzoSWORDSjING LANESlWNdUTCH",
    "dZEIRO SIGNlYING CAT FACEiFACEiSTAL BALLlSIcUBE ROOThCUMBER",
    "gNEIFORM NUMERIC SIGN EIGHT ASHdDISHeGESH2fSHAR2fUa VARIANT FORM",
    "oVARIANT FORM USSUa3xLAMITE FIFTYeORTYfONE THIRDjTWO THIRDSsFIVE ASH",
    "a TENUiBAN2a VARIANT FORMqURUeDISHeGESH2bUfSHAR2bUeIXTHS DISHlU",
    "a VARIANT FORMsOUR ASHa TENUiBAN2a VARIANT FORMqURUeDISHeGESH2bUfSHAR2bU",
    "fUa VARIANT FORMoVARIANT FORM LIMMUa AbBc4yNIGIDAESHdMINhNE ASHdDISH",
    "eGESH2fSHAR2fUa VARIANT FORMoVARIANT FORM ILIMMUa Ac3b4z",
    "aOLD ASSYRIAN ONE QUARTERhSIXTHvNE BAN2dURUeEIGHTH ASHjSHE3fGESH2bU",
    "fHALF GURiQUARTER ASHdGURlSHARUfTHIRD DISHeVARIANT FORM AySEVEN ASHdDISH",
    "eGESH2fSHAR2fUa VARIANT FORMoVARIANT FORM IMIN AbBc3",
    "xHAR2 TIMES GAL PLUS DISHeMINxIX ASHa TENUiDISHeGESH2fSHAR2fU",
    "a VARIANT FORMoVARIANT FORM ASH9vTHREE ASHa TENUiBAN2dURUa VARIANT FORM",
    "rDISHeGESH2bUfSHAR2a VARIANT FORMoUa VARIANT FORMsVARIANT FORM ESH16c21",
    "xWO ASHa TENUiBAN2dURUeESHE3fGESH2bUfSHAR2bUfTHIRDS DISHeVARIANT FORM Az",
    "nPUNCTUATION SIGN DIAGONAL COLONfQUADCOLONjTRICOLON",
    "rOLD ASSYRIAN WORD DIVIDERzaVERTICAL COLONzgSIGN Aa TIMES AbBAD",
    "dGAN2 TENUjHAcIGIdLAGAR GUNUkMUSHeSAGk2bBa GUNUeTIMES ASH2eDUN3 GUNUjGAL",
    "bN2 TENUjHAcIGI GUNUhMINeLAGABfNUNa TENUiSHESHdU2eU PLUS U PLUS Uw2",
    "a TIMES AbBALAGfGAN2 TENUjME PLUS ENkSHA3eTAK4nDa TIMES ESH2mK",
    "a TIMES ERIN2fSHITA PLUS GISHxLa TIMES ALcDIM2eGISHeHAcKAD3dIcSHEdUSHkAN",
    "cEPHeMARa TIMES KUGdSHEnNa OVER ANhPLUS NAGA OPPOSING AN PLUS NAGA",
    "vSQUAREDrTHREE TIMESmSHEePINdRADa TIMES KURmKABeSAL2dHa KABA TENU",
    "jOVER ASH OVER ASHa CROSSING ASH OVER ASH OVER ASHz",
    "oTUG2 OVER TUG2 TUG2 OVER TUG2 PAPzrZIDA TENUk2bGABgBAaD",
    "a TIMES DISH TENUrG3cHAR2a TIMES AB2dNIcZAnLa OVER BALjAGdRaA2eI",
    "a TIMES AbGARdIGI GUNUqUa CROSSING BUlOVER BU ABcTIMES NA2jUNlLUG",
    "a OVER BULUGoRa2eDAa TIMES TAK4lGa KISIM5 TIMES A PLUS MASHkMAReBALAGeI",
    "cGAa PLUS MASHlIaR2dUDdHAcIRa PLUS LUkKAKdLAbUa PLUS MASH2lMdNE",
    "cPAP PLUS PAPmSIcTAK4eU2 PLUS GIR2eMASHlSHqTIMES KURk3cMbRaA3b4eIaBbM",
    "a TIMES IGIdSHEdU U Um2a TIMES UDlNa KASKAL U GUNU DISHuSHa PLUS SHUmU",
    "a GUNUeOVER DUhSHESHIGiBa TIMES ESH2eSHEk2cGa TIMES ANSHEeSHa AT LEFT",
    "lDINcUNdERIN2fGAbIaR2 GUNUhSHeHAbIcIGI GUNUiKASKALfURbSHU2a PLUS KASKAL",
    "sLAK-020fMa TIMES KURmUH PLUS GISHnMASHdEScIcNIcPIcSHEcI GUNUoUDdHbNa3",
    "a GUNUa GUNUl4cR2eEa OVER E NUN OVER NUNtTIMES PAPk2",
    "a TIMES A PLUS HA PLUS DArGARdKURdMIcPAPdSALcHEdUjDINdGIRdLbN",
    "a CROSSING ENlOPPOSING ENlSQUAREDhTIMES GAN2a TENUjMEkRENcIN2a XgSH2",
    "a CROSSING ESH2rZENa SHESHIG TIMES ASHdHIcIGI GUNUiLAaLdMEaSdSUqTIMES A",
    "a PLUS LALa TIMES LALtNcBADdDUN3 GUNUa GUNUoGUDdHAa GUNUhIGI GUNUiKASKAL",
    "a SQUAREDnU3dLAaL TIMES LALmIbUcSHEcUcU2bDnGAa GUNUf2a OVER GA2",
    "iTIMES A PLUS DA PLUS HAkHAcIGIjB2 TENU PLUS TABqNa PLUS KAK PLUS ArSHa2",
    "a PLUS GALnBADbHAR2eR PLUS RAkURa PLUS RAlDAbIaM GUNUeTIMES SHEmUB",
    "bG TIMES IGI GUNUiKASKALqELa PLUS LAjNa TIMES GAN2 TENUrRENeGAaN2 TENUhR",
    "a PLUS DIcNEkIa4a PLUS AiR2 PLUS SUmHA PLUS AbLU PLUS ESH2sLa PLUS LA",
    "kI PLUS LIjUB2eIGI GUNUhSH PLUS HU PLUS ASHuKAKbSKALfIDa PLUS LAL",
    "lU3 PLUS ANjSHU2 PLUS KASKALsLAaMa TIMES KURmUHdME PLUS ENjIbUSHeNE",
    "a PLUS E2cGIjUNa OVER NUNmPAcSALbRcHEa PLUS TURkIDbMdUMdTAK4eUaD",
    "a PLUS DUkZIZ2mBAa CROSSING GABAnROTATED NINETY DEGREESzaD",
    "a OVER GAD GAR OVER GARxLa GAD OVER GAD GAR OVER GARzbAMdMbNa2",
    "a CROSSING GAN2nOVER GAN2jTENUhRa3cSHANfE22cSHTINa TIMES KURdUoI",
    "a CROSSING GIlTIMES EbUi4a CROSSING GI4mOVER GI4kDIMdGbR2a GUNUg3",
    "a TIMES A PLUS IGIkGAN2 TENUjIGIdLU PLUS IGIlPAlSALcHa CROSSING GISH",
    "nTENUdIMES BADdGISH CROSSING GISHsTAK4oUa CROSSING GUm2a GUNU",
    "eTIMES IGI GUNUiKAKa TIMES IGI GUNUsNUNdSAL PLUS TUG2vDa OVER GUD LUGAL",
    "oPLUS GISH TIMES TAK4uTIMES A PLUS KURkKURlLbMa TIMES SHElRa7bUNbSHgHA",
    "a GUNUeTENUa GUNUkLcIa TIMES ASHa OVER HI TIMES ASHs2eBADdDISHeGADdKIN",
    "dNUNdSHEdUjUaB2a TIMES ANcHALdKASKALgLISHeUDlL2cSHeIa AcBbDIM",
    "a OVER IDIM BURdSQUAREDvGaIa DIBdGUNUeOVER IGI SHIR OVER SHIR UD OVER UD",
    "zjRIfLa TIMES GAN2 TENUq2cMa CROSSING IMlOPPOSING IMlSQUAREDhTIMES TAK4",
    "lINdNbRbSHdKAa TIMES AaDa PLUS KU3kNSHEeSH2b3eBADbLAGdRcIbUcERIN2eSH2eGA",
    "aLbN2 TENUhRa PLUS SHA3 PLUS AtIaR2cSHa CROSSING GISHnPLUS SARmUaDbR7",
    "eHI TIMES ASH2nIGIcMcKAaKcIaDdLIbUaMdMEa PLUS DUcGIcTEjIa PLUS NUNUZnNE",
    "bUNdPAbIcRUcSAaRcHAbEbIDcUaLdIGcUHURfTARcUcUa U Ue2bDbMUM TIMES PAmRa2",
    "cSHdZIj2a CROSSING KA2oBbD2b3b4b5a OVER KAD5mKa TIMES IGI GUNUqL",
    "a CROSSING KALmTIMES BADlM2b4cP ELAMITEjSKAL",
    "a LAGAB TIMES U OVER LAGAB TIMES Uz",
    "hOVER KASKAL LAGAB TIMES U OVER LAGAB TIMES UzzaESH2eIa TIMES BADdUaDjD",
    "bNbSALcHbIM5a OVER KISIM5rUa OVER HI TIMES ASH2 KU OVER HI TIMES ASH2zq3",
    "b4a VARIANT FORMo7bLa GUNUgNbRa OPPOSING KURoSHU2fWU318gLAaGABa SQUARED",
    "hTIMES Aa PLUS DA PLUS HAkGARdLALjLbNbSH ZIDA TENUnBADcIcDARdENcGAaRcI",
    "bUDa PLUS GUDmHAaLcI TIMES NUNmIGI GUNUhMa PLUS HAcLUkKIaNcU3bL",
    "a PLUS HI PLUS AsLAGABeISHdUaLdMEa PLUS ENjUSHeNEcSHE PLUS SUM",
    "kITA PLUS GISH PLUS ERIN2kTENUsU2a PLUS SHU2nUMdTAGbK4",
    "dE PLUS A PLUS SU PLUS NAzaUa PLUS AbU PLUS Uo2 PLUS ASHkDbSHdZU OVER ZU",
    "sRa GUNUa OVER LAGAR GUNU SHEyTIMES SHEa PLUS SUMwHSHUeK-003c21b5c30c50",
    "b1c62c79 OVER LAK-079 GUNUu80b1 OVER LAK-081p92d130c42d210b9c20b5b8c38",
    "c65b6d343b7b8c83b4c90d441b9a TIMES GUcIGIdPAP PLUS LU3dPAP PLUS LU3",
    "vU2 PLUS BAt50b7c70c83c90b2b3b5d550d608c17a TIMES ASHdBADdDUN3 GUNU GUNU",
    "oKU3dLAcTARcEcU2bDbRUDAo36c48a TIMES DUBdGAcIGIa GUNUiNI",
    "cPAP PLUS PAP PLUS LU3vSHESH PLUS KInUDbRUDAp724c49fLa TIMES LALlM",
    "a TIMES KURa PLUS RUuIaLbMMU2eSHdUa TIMES BADk2a CROSSING LU2",
    "mGUNU TIMES ASHoOPPOSING LU2mSHESHIGa TIMES BADqQUAREDhTENUdIMES ALcBAD",
    "dDISHeESH2a PLUS LALiTENUjGAN2 TENUjHALcI TIMES BADmIMcKAD2b3a PLUS ASH",
    "mIcLA PLUS ASHjGABfME PLUS ENkNEbUcPAPa PLUS PAP PLUS LU3vSHUcI PLUS ASH",
    "jK2 PLUS BUmTAK4dUG2m3bGALa OPPOSING LUGALnVER LUGALkSHESHIGlHbLbM",
    "a OVER LUMa GAR OVER GARzaMAa GUNUeTIMES TAK4l2bHbRbSHa2eEaSaHdI",
    "a PLUS ZA7jNcUa OVER MUiGa GUNUgNSUBeRGU2eSHa CROSSING MUSHnOVER MUSH",
    "a TIMES A PLUS NAjGAcKAKtTIMES AbKURdZAj3a GUNUeTIMES Aa PLUS DIjDIcZA",
    "oNAa2b4bGAa INVERTEDiOPPOSING NAGAnTIMES SHU TENUpRdMa NUTILLUi2dE",
    "a SHESHIGhTIMES AbUDkIa TIMES Ei2bMa TIMES GAN2 TENUhR PLUS GAN2 TENUzbN",
    "a9bDA2a TIMES ANbSHa PLUS ASHmBALdDIM GUNUiGIaSHdUDbLdHIcKESH2fLAK-050",
    "hMASHdE PLUS GAN2 TENUrNEbUNdPAP PLUS PAPmSHEa PLUS A ANdSHa PLUS ASHvU",
    "a PLUS Uh2 PLUS ASHkRUDAeSHoSAGeUa11a OVER NU11 BUR OVER BUR",
    "wROTATED NINETY DEGREESwTENUhNa CROSSING NUNa LAGAR OVER LAGARz",
    "eLAGAR TIMES GARdMASHeSALa OVER NUN LAGAR TIMES SALzdUSHpOVER NUNiTENU",
    "fUZa AB2 TIMES ASHGABgBIcDUGdGUDdIGI GUNUiKAD3eLAcNEcSILA3fU2",
    "mKISIM5 TIMES BIa UxPAaDbNbPcESH2a ASTERISKnIa CROSSING PIlTIMES AaBcBI",
    "bUcEbIaBcUa2jR2bIGa OPPOSING PIRIGoTIMES KALdUDcZAoRAaBcIbUcSAaGa GUNU",
    "a TIMES HAnNUTILLUhOVER SAGiTIMES AbDUaBdENcHAcIGI GUNUiKAKcURdLUMdMI",
    "cNUNdSALcHE AT LEFTjIDeTABbK4eU2bBbMbRbSHlLa LAGAB TIMES ASH2sNGA2eRcHA",
    "a3a TIMES AbBADdGISHeNEcSHU2eTURdUa PLUS Aq6a TENUgB6cR2dEa HUcOVER SHE",
    "a GAD OVER GAD GAR OVER GARzaTAB OVER TAB GAR OVER GARzjPLUS HUB2eNAM2",
    "eSARjG9cNbSHa2bLAMgIDa TIMES AbIMkMa TIMES AbBALcULUGfDINdGARdIGIa GUNU",
    "iKUSHU2gLULdMUGdSALlNIGdRa OVER SHIR BUR OVER BURwTENUgTAdU",
    "a OVER INVERTED SHUs2a PLUS DUG TIMES NImE2 TIMES ANsBURfIa GUNU",
    "eTIMES TAK4lGa4a OVER SIG4 SHU2rK2cLA3eUa OVER SUiDa2cHURdMaASHeRa9eTA",
    "a ASTERISKiGUNUeTIMES HIcMIjBa OVER TAB NI OVER NI DISH OVER DISHz",
    "jSQUAREDjGa TIMES BIcGUDdSHEbUdTUG2eUDkK4a PLUS SAGlRcEa GUNUgIa TENUf2",
    "bLbRa OVER TIRa GAD OVER GAD GAR OVER GARzjTIMES TAK4nUaG2cKbM",
    "a TIMES GAN2 TENUjTHREE DISHsRa OVER TUR ZA OVER ZAxUa GUD",
    "dOVER U PA OVER PA GAR OVER GARxSUR OVER SURmU REVERSED OVER U REVERSEDz",
    "iUa Ue2bBbDa GUNUeKUSHU2gSHESHIGa TIMES BADrTIMES BADdMIcU PLUS U PLUS U",
    "a GUNUzcUGdMa TIMES LAGABfMEa PLUS DAkSHA3eUiBINdUMa TIMES KASKALgPAmN",
    "a GUNUgRa CROSSING URlSHESHIGi2a INVERTEDiTIMES A PLUS HAcNAiLcHAcNUNdU2",
    "a PLUS ASHdBIjDk4bIa3cUa TIMES AaSHGABgBARdDARA3eUNdGAaLbN2 TENUhRcUcHA",
    "cIGIcMbSHdKIcLAK-668gU3bMdMINdPAcSHEcIG4eTUcU PLUS GUDjDbRUDAmDA",
    "a TIMES UmSHa TIMES AbKUaRdTAK4l2bUMXdXdTUKIeZ3a TIMES KASKALoUdZA",
    "a SQUARED TIMES KURrTENUf7bGbMXdE2cIa OVER ZIi3bBa KABA TENUlGbZ2dU",
    "a OVER ZU PLUS SARr5a TIMES AbTHREE DISH TENUxBURdMqP ON BLACK SQUARE",
    "pWITH STRAWlCAKEeIDOeRLING STONEjY BRACKET EXTENSIONrLOGICAL ANDdORiOP",
    "hRENCY EXCHANGEiSIGNjY AND RICElVED STEM PARAGRAPH SIGN ORNAMENTziSTARD",
    "dOMSfT OF MEATkYCLONEfLINDRICITYkPRIOT SYLLABLE AbEbIbJAbOcKAbEbIbObUcLA",
    "bEbIbObUcMAbEbIbObUcNAbEbIbObUcObPAbEbIbObUcRAbEbIbObUcSAbEbIbObUcTAbEbI",
    "bObUcUbWAbEbIbOcXAbEcZAbOpO-MINOAN SIGN CM001b2b4b5b6b7b8b9c10b1b2aBc3b5",
    "b7b9c21b3b4b5b6b7b8b9c30b3b4b5b6b7b8b9c40b1b4b6b7b9c50b1b2b3b4b5b6b8b9",
    "c60b1b2b3b4b6b7b8b9c70b1b2b3b4b5aBc6b8b9c80b1b2b3b4b5b6b7b8b9c90b1b2b4b5",
    "b6b7b8b9d100b1b2b3b4b5b7b8b9c10b2b4d301b2vRILLIC CAPITAL LETTER A",
    "a WITH BREVEfDIAERESISpBKHASIAN CHEa WITH DESCENDERsDZEdHAlLEUT KA",
    "iBARRED Oa WITH DIAERESISvSHKIR KAjEbIG YUSfNOCULAR OkLENDED YUS",
    "kROAD OMEGAkYELORUSSIAN-UKRAINIAN IyCCHEdHEa WITH DESCENDERiIAERESIS",
    "jVERTICAL STROKExLOSED LITTLE YUSqROSSED OjDCHEdEbJEaRV",
    "eOUBLE MONOCULAR OlOhWEcZEaLOdHEcWEcZEbHEfEa WITH DIAERESISpFbL",
    "a WITH DESCENDERjHOOKeMIDDLE HOOKlTAILlMa WITH TAILlNa WITH DESCENDER",
    "jHOOKeLEFT HOOKjMIDDLE HOOKlTAILlRa WITH TICKlSa WITH DESCENDERrFITAeGHE",
    "a WITH DESCENDERjMIDDLE HOOKlSTROKEa AND HOOKpUPTURNoJEdHA",
    "a WITH DESCENDERjHOOKeSTROKEmRD SIGNiWEdIa WITH DIAERESISjGRAVEfMACRONmE",
    "a WITH BREVEfGRAVEmOaTAbIFIED AbBIG YUShCLOSED LITTLE YUSrEbLITTLE YUS",
    "kYATlZHITSAa WITH DOUBLE GRAVE ACCENTzhJEcKAa WITH DESCENDERjHOOKeSTROKE",
    "gVERTICAL STROKEwHAKASSIAN CHEnJEcOMI DEbJEcZJEeLJEdNJEdSJEdTJEdZJEgPPA",
    "eSIdLHAcITTLE YUSjJEdMONOCULAR OhGRAPH UKmNEUTRAL YERkJEdO",
    "a WITH DIAERESISpMEGAa WITH TITLOpTcPEa WITH DESCENDERjMIDDLE HOOKsSIdQA",
    "cREVERSED DZEdTSEdYUcZEkHAcOUND OMEGAlSCHWAa WITH DIAERESIStEMISOFT SIGN",
    "mHAbCHAdHAa WITH DESCENDERrORT Ia WITH TAILlUfWEdOFT DEcELbMcSIGN",
    "iTRAIGHT Ua WITH STROKEwTCHEdEa WITH DESCENDERjMIDDLE HOOKsSEbHEcSEcWE",
    "dWEdUa WITH DIAERESISiOUBLE ACUTEmMACRONmKaRAINIAN IEmVEcWEcYAaEbTcERU",
    "a WITH BACK YERiDIAERESISsIbNbUcZEa WITH DESCENDERiIAERESISpMLYAfHE",
    "a WITH BREVEfDESCENDERiIAERESISqWEkIGATURE A IEeEN GHEgTE TSExKAVYKA",
    "gLETTER MULTIOCULAR OnPALOCHKAiSMALL CAPITAL ELxPAYEROKhSMALL LETTER A",
    "a WITH BREVEfDIAERESISpBKHASIAN CHEa WITH DESCENDERsDZEdHAlLEUT KA",
    "iBARRED Oa WITH DIAERESISvSHKIR KAjEbIG YUSfNOCULAR OkLENDED YUS",
    "kROAD OMEGAkYELORUSSIAN-UKRAINIAN IyCCHEdHEa WITH DESCENDERiIAERESIS",
    "jVERTICAL STROKExLOSED LITTLE YUSqROSSED OjDCHEdEbJEaRV",
    "eOUBLE MONOCULAR OlOhWEcZEaLOdHEcWEcZEbHEfEa WITH DIAERESISpFbL",
    "a WITH DESCENDERjHOOKeMIDDLE HOOKlTAILlMa WITH TAILlNa WITH DESCENDER",
    "jHOOKeLEFT HOOKjMIDDLE HOOKlTAILlRa WITH TICKlSa WITH DESCENDERrFITAeGHE",
    "a WITH DESCENDERjMIDDLE HOOKlSTROKEa AND HOOKpUPTURNoJEdHA",
    "a WITH DESCENDERjHOOKeSTROKEmRD SIGNiWEdIa WITH DIAERESISjGRAVEfMACRONmE",
    "a WITH BREVEfGRAVEmOaTAbIFIED AbBIG YUShCLOSED LITTLE YUSrEbLITTLE YUS",
    "kYATlZHITSAa WITH DOUBLE GRAVE ACCENTzhJEcKAa WITH DESCENDERjHOOKeSTROKE",
    "gVERTICAL STROKEwHAKASSIAN CHEnJEcOMI DEbJEcZJEeLJEdNJEdSJEdTJEdZJEgPPA",
    "eSIdLHAcITTLE YUSjJEcONG-LEGGED DEoMONOCULAR OhGRAPH UKmNARROW O",
    "hEUTRAL YERkJEdOa WITH DIAERESISpMEGAa WITH TITLOpTcPALOCHKAhE",
    "a WITH DESCENDERjMIDDLE HOOKsSIdQAcREVERSED DZEdTSEdYUcZEkHAcOUND OMEGA",
    "gED VEkSCHWAa WITH DIAERESIStEMISOFT SIGNmHAbCHAdHAa WITH DESCENDER",
    "rORT Ia WITH TAILlUfWEdOFT DEcELbMcSIGNiTRAIGHT Ua WITH STROKE",
    "wTALL HARD SIGNjTEcYAThCHEdEa WITH DESCENDERjMIDDLE HOOKsHREE-LEGGED TE",
    "oSEbHEcSEcWEdWEdUa WITH DIAERESISiOUBLE ACUTEmMACRONmKaRAINIAN IE",
    "lNBLENDED UKmVEcWEbIDE EShYAaEbTcERUa WITH BACK YERiDIAERESISsIbNbUcZE",
    "a WITH DESCENDERiIAERESISpMLYAfHEa WITH BREVEfDESCENDERiIAERESISqWE",
    "kIGATURE A IEeEN GHEgTE TSEvTHOUSANDS SIGNxDAGGERa KNIFEfWITH LEFT GUARD",
    "kRIGHT GUARDvLET SYMBOLkNCERdGOdRK SHADEeUNGLASSESnSH SYMBOL",
    "gWITH LEFT UPTURNrED LOW LINEiOVERLINEiTRIANGLE-HEADED RIGHTWARDS ARROWz",
    "mTA LINK ESCAPEpC1b2b3b4bScEAF PERSONjCIDUOUS TREEkMAL EXPONENT SYMBOL",
    "pSEPARATOR KEY SYMBOLzaREASE FONT SIZE SYMBOLxERcGREE CELSIUShFAHRENHEIT",
    "kSIGNjLaETEdIVERY TRUCKlTA EQUAL TO",
    "mNTISTRY SYMBOL LIGHT DOWN AND HORIZONTALa WITH CIRCLEgTRIANGLEiWAVEz",
    "eUP AND HORIZONTALa WITH CIRCLEgTRIANGLEiWAVEzcVERTICAL AND BOTTOM LEFT",
    "eRIGHTmTOP LEFTeRIGHTjWAVEiWITH CIRCLEgTRIANGLEzsPARTMENT STORE",
    "oRELICT HOUSE BUILDINGvSCENDING NODEmERET CAPITAL LETTER AYcBEEdCHEEeDEE",
    "dEFbLbMbNaGcRbSaHcTHcWcGAYdHbJEEdKAYdLONG AaHcEbIbOaOhOIbWcPEEdSHORT AaH",
    "cEbIbOaOiTEEcHEEeVEEdWUcYEEdZEEcHEEtSMALL LETTER AYcBEEdCHEEeDEEdEFbLbM",
    "bNaGcRbSaHcTHcWcGAYdHbJEEdKAYdLONG AaHcEbIbOaOhOIbWcPEEdSHORT AaHcEbIbO",
    "aOiTEEcHEEeVEEdWUcYEEdZEEcHEEuTa ISLANDkKTOP COMPUTERiWINDOW",
    "mVANAGARI ABBREVIATION SIGNqCUTE ACCENTmCARETfDANDAeIGIT EIGHTfFIVEdOUR",
    "eNINEeONEdSEVENeIXdTHREEeWOdZEROjOUBLE DANDAmGAP FILLERjRAVE ACCENT",
    "mHEADSTROKEkJAIN OMhLETTER AaAbIbUbWbYcBAbBAcHAdCAaNDRA AbEbOhHAdDAbDA",
    "bDAbHAdHAdHAdEbFAcGAbGAcHAbHAdLOTTAL STOPmHAbEAVY YAiIaIcJAbHAcJAdKAbHA",
    "bHAeLAbLAbLAeMAaRWARI DDAlNAbGAcNAbNAdYAdOaEbOEdPAbHAdQAcRAbHAcRAdSAbHA",
    "bORT AbEbOgSAdTAbHAcTAbHAeUaEbUaEdVAbOCALIC LaLcRaRkYAbYAdZAbHAkOM",
    "cSIGN ANUSVARAhVAGRAHAiCANDRABINDUa AVAGRAHAiTHREEeWOdVIRAMA",
    "sDOUBLE CANDRABINDU VIRAMAzaHIGH SPACING DOTqINVERTED CANDRABINDUuNUKTA",
    "fPUSHPIKAiSIDDHAMgPACING CANDRABINDUtVIRAMAeSARGAlTRESS SIGN ANUDATTA",
    "iUDATTAsVOWEL SIGN AAbIbUbWbYcCANDRA EbLONG EgOiEbIaIcOaEbOE",
    "dPRISHTHAMATRA EpSHORT EbOhUaEbUaEdVOCALIC LaLcRaRzeICE CONTROL FOUReONE",
    "dSTRINGgTHREEeWOrIAERESISgMETER SIGNjOND OPERATOR",
    "iSHAPE WITH A DOT INSIDExTARGETgWITH BOTTOM HALF BLACKrLEFT HALF BLACK",
    "pRIGHT HALF BLACKqTOP HALF BLACKzaE FACE-1b2b3b4b5b6hSEL LOCOMOTIVE",
    "pFFERENCE BETWEENqGIT EIGHTa COMMAfFULL STOPpFIVEa COMMAfFULL STOPnOUR",
    "a COMMAfFULL STOPoNINEa COMMAfFULL STOPoONEa COMMAfFULL STOPnSEVEN",
    "a COMMAfFULL STOPoIXa COMMAfFULL STOPnTHREEa COMMAfFULL STOPoWOa COMMA",
    "fFULL STOPnZEROa COMMAfFULL STOPrRAM FOR EARTHaLY HEAVENfUMAN",
    "nGREATER YANGdINlHEAVENLY EARTHnUMAN EARTHlLESSER YANGdINtMENSION ORIGIN",
    "oNGBAT CIRCLED SANS-SERIF DIGIT EIGHTfFIVEdOUReNINEeONEdSEVENeIXdTHREE",
    "eWOdZEROkNUMBER TENzeNEGATIVE CIRCLED DIGIT EIGHTfFIVEdOUReNINEeONE",
    "dSEVENeIXdTHREEeWOjNUMBER TENkSANS-SERIF DIGIT EIGHTfFIVEdOUReNINEeONE",
    "dSEVENeIXdTHREEeWOdZEROkNUMBER TENztRECT CURRENT SYMBOL FORM TWOxHIT",
    "iSABLED CARiPPOINTED BUT RELIEVED FACErFACEoCONTINUOUS UNDERLINE SYMBOLz",
    "cGUISED FACEmTTO MARKiVES AKURU DIGIT EIGHTfFIVEdOUReNINEeONEdSEVENeIX",
    "dTHREEeWOdZEROjOUBLE DANDAmEND OF TEXT MARKqGAP FILLERkINITIAL RA",
    "kLETTER AaAcBAbHAdCAbHAdDAbDAbHAdHAdEbGAbHAdHAcIaIcJAcKAbHAdLAbLAdMAcNA",
    "bGAcNAcYAdObPAbHAdRAcSAbHAcSAdTAbHAcTAdUaUcVAcYAbYAdZAjMEDIAL RAcYA",
    "jPREFIXED NASAL SIGNtSIGN ANUSVARAiCANDRABINDUlHALANTAhNUKTAkVIRAMA",
    "fOWEL SIGN AAbIcEbIaIcObUaUwIDESdNG MASKhSION SIGNdLASHfTIMES",
    "lORCE SYMBOLmYA LAMPhZZY FACEeSYMBOLlLEcNA DOUBLE HELIX",
    "pO NOT LITTER SYMBOLsCUMENTa WITH PICTUREhTEXTa AND PICTUREzdDO",
    "cES NOT CONTAIN AS MEMBERgNORMAL SUBGROUPa OR EQUALzkDIVIDE",
    "a WITH REVERSED NEGATION SLASHzkFORCEfPRECEDEa OR EQUALoOVEfSUCCEED",
    "a OR EQUALxGa FACEfRA ABBREVIATION SIGNrLETTER AaAbIbUcBAbHAdCAbHAdDAbDA",
    "bHAdHAdEbGAbHAdHAcIaIcJAbHAdKAbHAdLAcMAcNAbGAcNAcYAdObPAbHAdRAbRAdSAbHA",
    "cSAdTAbHAcTAbHAeUaUcVAcYAjSIGN ANUSVARAiNUKTAfVIRAMAeSARGAmVOWEL SIGN AA",
    "bIbUcEbIaIcObUaUcVOCALIC RaRzaLLAR SIGNiPHINfMINO TILE HORIZONTAL BACK",
    "f-00-00b1b2b3b4b5b6e1-00b1b2b3b4b5b6e2-00b1b2b3b4b5b6e3-00b1b2b3b4b5b6",
    "e4-00b1b2b3b4b5b6e5-00b1b2b3b4b5b6e6-00b1b2b3b4b5b6qVERTICAL BACKf-00-00",
    "b1b2b3b4b5b6e1-00b1b2b3b4b5b6e2-00b1b2b3b4b5b6e3-00b1b2b3b4b5b6e4-00b1b2",
    "b3b4b5b6e5-00b1b2b3b4b5b6e6-00b1b2b3b4b5b6yNG SIGNhORcT ABOVEfMINUS",
    "fOPERATORiPLUSfTED CIRCLEfROSSfFENCEfLINE FACEjOBELOS",
    "gRIGHT-POINTING ANGLEuSOLIDUSgQUAREgTRANSPOSITION MARKERz",
    "aUBLE ACUTE ACCENTmCIRCLED DIGIT EIGHTfFIVEdOUReNINEeONEdSEVENeIXdTHREE",
    "eWOjNUMBER TENrOLON EQUALkURLY LOOPkDAGGERfOWN TACKjEXCLAMATION MARK",
    "qHIGH-REVERSED-9 QUOTATION MARKzeYPHENgINTEGRALeRSECTION",
    "mLEFT ARC GREATER-THAN BRACKETzdOGICAL ANDdORiW LINEf-9 QUOTATION MARK",
    "qREVERSED-9 QUOTATION MARKzeNESTED GREATER-THANmLESS-THANa WITH UNDERBAR",
    "zfOBLIQUE HYPHENoPLUSdRECEDESgIMEa QUOTATION MARKuQUESTION MARK",
    "nRIGHT ARC LESS-THAN BRACKETzcSOLIDUS OPERATORpQUARE INTERSECTIONmUNION",
    "lTACKED COMMAlROKE NOT SIGNoUBSETeCCEEDSgPERSETgSPENSION MARKpUNION",
    "eP TACKhVERTICAL BARa DOUBLE LEFT TURNSTILEoRIGHT TURNSTILE",
    "wLEFT TURNSTILEsLINEnWAVY OVERLINEo-ENDED MULTIMAP",
    "oLINE EQUAL TO OR GREATER-THANmLESS-THAN",
    "vSLANTED EQUAL TO OR GREATER-THANmLESS-THANvGREATER-THAN OR EQUAL TO",
    "yLESS-THAN OR EQUAL TOzjSTRUCK CAPITAL CbGAMMAfHbNbPaIcQbRbZ",
    "jITALIC CAPITAL DjSMALL DbEbIbJoN-ARY SUMMATIONpSMALL GAMMAfPI",
    "qD FEMALE SIGNlMALE SIGNjSYMBOLlGHNUTgVE OF PEACElWN ARROWHEADjFISH TAIL",
    "jRIGHT DIAGONAL ELLIPSISxTACKa WITH CIRCLE BELOWx-POINTING RED TRIANGLE",
    "mSMALL RED TRIANGLEsTRIANGLE WITH LEFT HALF BLACKpRIGHT HALF BLACKz",
    "pWARD FACING HOOKa WITH DOTnNOTCHED HOOKa WITH DOTzeS ANCORAfRROW",
    "a AND RIGHT ONE EIGHTH BLOCKzbFROM BARiLEFTWARDS OF UPWARDS ARROWz",
    "bTO BARgWITH CORNER LEFTWARDSqDOUBLE STROKEnEQUILATERAL ARROWHEAD",
    "vHORIZONTAL STROKErLARGE TRIANGLE ARROWHEADyMEDIUM TRIANGLE ARROWHEADz",
    "aNOTCHED TAILmSMALL EQUILATERAL ARROWHEADvTRIANGLE ARROWHEAD",
    "yTIP LEFTWARDSjRIGHTWARDSzaBLACK ARROWfCIRCLED WHITE ARROWz",
    "aCOMPRESSED ARROWqDASHED ARROWlOUBLE ARROWmFINGER-POST ARROW",
    "rHARPOON WITH BARB LEFT BESIDE DOWNWARDS HARPOON WITH BARB RIGHTz",
    "iUPWARDS HARPOON WITH BARB RIGHTznFROM BARiTO BARhWARDSjRIGHT FROM BAR",
    "iTO BARhWARDSzcEAVY ARROWfCOMPRESSED ARROWwPAIRED ARROWSnQUADRUPLE ARROW",
    "pROCKETgSANS-SERIF ARROWpQUARED ARROWnTRIANGLE ARROWHEADk-HEADED ARROW",
    "a LEFTWARDS OF UPWARDS TRIANGLE-HEADED ARROWzrTO BARgWITH BOLD SHAFT",
    "kDOUBLE HORIZONTAL STROKEyHEAVY SHAFTlLONG TIP LEFTWARDSjRIGHTWARDS",
    "tMEDIUM SHAFTmNARROW SHAFTmVERY HEAVY SHAFTzcDASHED ARROWmPAIRED ARROWS",
    "nZIGZAG ARROWzaPLE ARROWlWO HEADED ARROW",
    "n-HEADED ARROW WITH TRIANGLE ARROWHEADSzqWHITE ARROW",
    "a WITHIN TRIANGLE ARROWHEADzmZIGZAG ARROWvRACHMA SIGN",
    "jFTING POINT RIGHTWARDS ARROWzdGONa FACEjESSdIVE SLOW SIGNnOMEDARY CAMEL",
    "mOLING FACEkP OF BLOODjLETfUM WITH DRUMSTICKStUCKcMPLING",
    "gPLOYAN AFFIX ATTACHED E HOOKgI HOOKgLEFT-TO-RIGHT SECANTuSECANTgTAIL",
    "cNGENTa HOOKvHIGH ACUTEfCIRCLEgDOTdGRAVEfLINEdONG GRAVEkTIGHT ACUTE",
    "lVERTICALa SECANTpWAVEjLEFT HORIZONTAL SECANTvOW ACUTEeRROWfCIRCLEgDOT",
    "dGRAVEfLINEdONG GRAVEkTIGHT ACUTElVERTICALa SECANTpWAVE",
    "iMID HORIZONTAL SECANTrVERTICAL SECANTtRIGHT HORIZONTAL SECANTz",
    "eDOUBLE MARKlLETTER AaOUdBbDa ScHcEaEbUcFa NdGa R SfHaLcIaEcJa Ma SdNa S",
    "dSa WITH DOTkWITH DOTaS INSIDE AND ABOVEzdKa MbR SeKcLaHbONG IbUgMa Na S",
    "dSbWITH DOTkNa Ma SdSbWITH DOTjASAL AbIbObUhOaAbOHcUbWcPa NcERNIN AMbNjR",
    "a ScHbOMANIAN IbUkSa Ja SdKa RdMbNbPa RdSbTa RdWITH DOTa BELOWpHORT I",
    "gLOAN ANcDHcEEbHbNcJbONbWcUhTa R SdScHcUa NcHbIcVaOCALIC MjWa RcAbEIcHbI",
    "bOaWdXaWcYEjPUNCTUATION CHINOOK FULL STOPzeSIGN O WITH CROSS",
    "rTHICK LETTER SELECTORzeVD"]

end Chip8.Text.CharacterName
