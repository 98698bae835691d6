/-!
# Names of characters from A to B

The names and other names of characters that begin with these letters, written
as the module `Chip8.Text.CharacterName` says.
-/

namespace Chip8.Text.CharacterName

def namesAToB : List String := [
    "aABACUSfC CURRENTiCORDIONfUNT OFiKaNOWLEDGEjTIVATE ARABIC FORM SHAPING",
    "tSYMMETRIC SWAPPINGzaUTE ACCENTfNGLEkDDRESSED TO THE SUBJECT",
    "wHESIVE BANDAGEoI SHAKTIiLAM ALIF LENGTHENERpCAPITAL LETTER ALIFeBAbHE",
    "dCHIdDAALIeHAdEbFAcGAbBEdHAcIbJIIMeKAFcHAcPOdLAAMeMIIMeNHAcUNcYAdObPE",
    "cQAAFeRAcSHAcINNYIIYHEkTUcUbVAcWAWdYAbHEdZALrONSONANT MODIFIER",
    "sDIGIT EIGHTfFIVEdOUReNINEeONEdSEVENeIXdTHREEeWOdZERO",
    "kGEMINATE CONSONANT MODIFIERuION MARKpHAMZAfINITIAL EXCLAMATION MARK",
    "qQUESTION MARKvNASALIZATION MARKqUKTAfSMALL LETTER ALIFeBAbHEdCHIdDAALI",
    "eHAdEbFAcGAbBEdHAcIbJIIMeKAFcHAcPOdLAAMeMIIMeNHAcUNcYAdObPEcQAAFeRAcSHA",
    "cINNYIIYHEkTUcUbVAcWAWdYAbHEdZALqVOWEL LENGTHENERuMETOSeISSION TICKETS",
    "pULTeEGEAN CHECK MARKkDRY MEASURE FIRST SUBUNITz",
    "aLIQUID MEASURE FIRST SUBUNITzdMEASURE SECOND SUBUNIToTHIRD SUBUNIT",
    "vNUMBER EIGHTa HUNDREDhTHOUSANDjYa THOUSANDpFIFTYa THOUSANDmVEa HUNDRED",
    "hTHOUSANDmORTYa THOUSANDmURa HUNDREDhTHOUSANDnNINEa HUNDREDhTHOUSANDjTY",
    "a THOUSANDpONEa HUNDREDhTHOUSANDmSEVENa HUNDREDhTHOUSANDjTYa THOUSANDpIX",
    "a HUNDREDhTHOUSANDjTYa THOUSANDoTENa THOUSANDlHIRTYa THOUSANDnREE",
    "a HUNDREDhTHOUSANDnWENTYa THOUSANDnOa HUNDREDhTHOUSANDtWEIGHT BASE UNIT",
    "jFIRST SUBUNITmOURTH SUBUNIToSECOND SUBUNIToTHIRD SUBUNIT",
    "tORD SEPARATOR DOTdLINEyRIAL TRAMWAYnFGHANI SIGN",
    "lHOM CONSONANT SIGN MEDIAL LAbIGATING RAlRAyDIGIT EIGHTfFIVEdOUReNINE",
    "eONEdSEVENeIXdTHREEeWOdZEROkLETTER AaLTERNATE BAcGAcTAmBAbHAdCAbHAdDAbDA",
    "bHAdHAdGAbHAdHAcJAbHAdKAbHAdLAbLAdMAcNAbGAcNAcYAdPAbHAdRAcSAcTAbHAcTAbHA",
    "lNUMBER TENcWENTYnSIGN KILLERgRULAIfSECTIONgMALL SECTIONrYMBOL VI",
    "jVOWEL SIGN AaAbIbMbWcEbIaIcObUaUrIRPLANEa ARRIVINGiDEPARTURE",
    "rKTIESELSKABlLARM CLOCKjCHEMICAL SYMBOL FOR AIRcLEMBICfKALIa-2gUMdMALGAM",
    "gNTIMONY ORElQUA REGIAa-2hVITAEa-2iFORTISjRSENICgSHESeURIPIGMENT",
    "lBATH OF MARYeVAPOURSoISMUTH OREkLACK SULFURlORAXa-2b3gRICKfCADUCEUSgLX",
    "cPUT MORTUUMmINNABARhOPPER ANTIMONIATElOREjROCUS OF COPPERa-2iIRON",
    "mUCIBLEa-2b3b4b5kDAY-NIGHTiISSOLVEa-2hTILLhEARTHfFIREeGOLDdUMdHALF DRAM",
    "eOUNCEjORSE DUNGiUReIRON OREa-2g-COPPER OREpLEAD OREhODESTONEjMARCASITE",
    "iERCURY SUBLIMATEa-2b3sONTHfNIGHTdTREfOILdPHILOSOPHERS SULFURsOT ASHES",
    "hWDERaED BRICKnRECIPITATEkURIFYeTREFACTIONmQUICK LIMEhNTESSENCEmREALGAR",
    "a-2hGULUSa OF ANTIMONYa-2kIRONi-2b3b4hTORTfOCK SALTa-2lSAL-AMMONIACjT",
    "a OF ANTIMONYiCOPPER ANTIMONIATEzaCEPTER OF JOVEoILVERfOAPdPIRIT",
    "fTARRED TRIDENTnRATUM SUPER STRATUMa-2wUBLIMATE OF ANTIMONYiCOPPER",
    "gSALT OF ANTIMONYiCOPPERtIONjLFURgTARTARa-2hIN OREeCTUREhRIDENTgUTTY",
    "fURINEfVERDIGRISiINEGARa OF ANTIMONYm-2b3hTRIOLa-2jWATERdXxEF SYMBOL",
    "iMBICeRTdIEN MONSTERlL AROUND-PROFILEoEQUAL TOkMaOST EQUAL OR EQUAL TO",
    "lTOa WITH CIRCUMFLEX ACCENTzlTERNATE ONE-WAY LEFT WAY TRAFFICz",
    "bIVE KEY SYMBOLvMALGAMATION OR COPRODUCTxBULANCEhERICAN FOOTBALLpPERSAND",
    "gHORAgNATOLIAN HIEROGLYPH A001b2b3b4b5b6b7b8b9c10aAc1b2b3b4b5b6b7b8b9c20",
    "b1b2b3b4b5b6aAc7b8b9c30b1b2b3b4b5b6b7b8b9aAd40b1aAc2b3b4b5aAc6aAbBc7b8b9",
    "c50b1b2b3b4b5b6b7b8b9c60b1b2b3b4b5b6aAbBbCc7b8b9c70b1b2b3b4b5b6b7b8b9c80",
    "b1b2b3b4b5b6b7b8b9c90b1b2b3b4b5b6b7aAc8aAc9d100aAc1aAc2aAc3b4aAbBbCc5aA",
    "bBc6b7aAbBbCc8b9c10aAbBc1b2b3b4b5aAc6b7b8b9c20b1b2b3b4b5aAc6b7b8b9c30b1",
    "b2b3b4b5aAc6b7b8b9c40b1b2b3b4b5b6b7b8b9c50b1b2b3b4b5b6b7b8b9c60b1b2b3b4",
    "b5b6b7b8b9c70b1b2b3b4b5b6b7b8b9c80b1b2b3b4b5b6b7b8b9c90b1b2b3b4b5b6b7b8",
    "b9d200b1b2aAbBc3b4b5b6b7aAc8b9aAd10b1b2b3b4b5aAc6aAc7b8b9c20b1b2b3b4b5b6",
    "b7aAc8b9c30b1b2b3b4b5b6b7b8b9c40b1b2b3b4b5b6b7b8b9c50b1b2b3b4b5b6b7b8b9",
    "c60b1b2b3b4b5b6b7aAc8b9c70b1b2b3b4b5b6b7b8b9c80b1b2b3b4b5b6b7b8b9aAd90b1",
    "b2b3b4aAc5b6b7b8b9aAe300b1b2b3b4b5b6b7b8b9aAd10b1b2b3b4b5b6b7b8b9c20b1b2",
    "b3b4b5b6b7b8b9aAd30b1b2AbBbCc3b4b5b6aAbBbCc7b8b9c40b1b2b3b4b5b6b7b8b9c50",
    "b1b2b3b4b5b6b7b8b9aAd60b1b2b3b4aAc5b6b7b8aAc9c70b1aAc2b3b4b5b6b7b8b9c80",
    "b1aAc2b3 RA OR RIjAc4b5b6aAc7b8b9c90b1b2b3 EIGHTh4b5b6b7b8b9d400b1b2b3b4",
    "b5b6b7b8b9c10 BEGIN LOGOGRAM MARKuA END LOGOGRAM MARKu1b2b3b4b5b6b7b8b9",
    "c20b1b2b3b4b5b6b7b8b9c30b1b2b3b4b5b6b7b8b9c40b1b2b3b4b5b6b7b8b9c50aAc1b2",
    "b3b4b5b6b7aAc8b9c60b1b2b3b4b5b6b7b8b9c70b1b2b3b4b5b6b7b8b9c80b1b2b3b4b5",
    "b6b7b8b9c90b1b2b3b4b5b6b7d501b2b3b4b5b6b7b8b9c10b1b2b3b4b5b6b7b8b9c20b1",
    "b2b3b4b5b6b7b8b9c30uMICAL HEARToCHOReD WITH DOTkGER SYMBOLjLE",
    "a WITH S INSIDEiUNDERBARqRY FACEhSTROM SIGNkUISHED FACEmKHcT",
    "aENNA WITH BARSoICLOCKWISE CLOSED CIRCLE ARROWsONTOUR INTEGRAL",
    "qDOWNWARDS AND UPWARDS OPEN CIRCLE ARROWSzpGAPPED CIRCLE ARROW",
    "tINTEGRATIONlOPEN CIRCLE ARROWrTOP SEMICIRCLE ARROW",
    "tRIANGLE-HEADED BOTTOM U-SHAPED ARROWvLEFT U-SHAPED ARROW",
    "tOPEN CIRCLE ARROWrRIGHT U-SHAPED ARROWuTOP U-SHAPED ARROWzwPC",
    "bL FUNCTIONAL SYMBOL ALPHAa UNDERBARoBACKSLASH BARnCIRCLE BACKSLASH",
    "jDIAERESISjJOTdSTARcILEfUNDERBARoOMMA BARjDEL DIAERESISjSTILEfTILDE",
    "gTA STILEfUNDERBARnIAMOND UNDERBARpOWN CARET TILDElSHOE STILEkTACK JOT",
    "dUNDERBARoWARDS VANEoEPSILON UNDERBARqGREATER-THAN DIAERESISwI-BEAMfOTA",
    "a UNDERBARnJOT DIAERESISjUNDERBARmLEFT SHOE STILElWARDS VANEoOMEGA",
    "a UNDERBARoQUADa BACKSLASHjCIRCLEfOLONfDELaTAeIAMONDfVIDEfOWN CARET",
    "gWARDS ARROWpEQUALfGREATER-THANmJOTdLEFTWARDS ARROWnSS-THANjNOT EQUAL",
    "jQUESTIONiRIGHTWARDS ARROWqSLASHfUP CARETgWARDS ARROWqOTE QUADeUNDERBAR",
    "oRHOcIGHTWARDS VANEpSEMICOLON UNDERBARrLASH BARiQUISH QUADkTAR DIAERESIS",
    "mILE TILDElTILDE DIAERESISpUP CARET TILDElSHOE JOTiTACK DIAERESISjJOT",
    "dOVERBARnWARDS VANEmZILDEzaOLLONeSTROPHEiPLICATION PROGRAM COMMAND",
    "yROACHES THE LIMITpXIMATELY BUT NOT ACTUALLY EQUAL TOzaEQUAL OR EQUAL TO",
    "lTOa OR THE IMAGE OFzmQUARIUShRABIC BASELINE ROUND DOTsCOMMAeURLY DAMMA",
    "aTANiFATHAaTANiKASRAaTANoDAMMAa ISOLATED FORMnMEDIAL FORMlWITH DOTjTAN",
    "a ISOLATED FORMuTE SEPARATORnECIMAL SEPARATORqISPUTED END OF AYAH",
    "tOUBLE RIGHT ARROWHEAD ABOVEa WITH DOTzgD MADDAnEMPTY CENTRE HIGH STOP",
    "jLOW STOPuND OF AYAHeTEXT MARKqFATHAa ISOLATED FORMnMEDIAL FORM",
    "lWITH DOT ABOVEjRINGeTWO DOTSoTANa ISOLATED FORMvIVE POINTED STAR",
    "qOOTNOTE MARKERoULL STOPjHALF MADDA OVER MADDAtMZA ABOVEfBELOW",
    "lINVERTED DAMMAoKASRAa ISOLATED FORMnMEDIAL FORMlWITH DOT BELOWpTAN",
    "a ISOLATED FORMwLARGE CIRCLE BELOWmROUND DOT ABOVEfBELOW",
    "fINSIDE CIRCLE BELOWzjEFT ARROWHEAD ABOVEfBELOWsTTER AEbFRICAN FEHdNOON",
    "eQAFa WITH THREE DOTS ABOVEzhINa FINAL FORMkINITIAL FORMlSOLATED FORM",
    "nMEDIAL FORMlWITH THREE DOTS ABOVEfBELOWfPOINTING DOWNWARDS ABOVEz",
    "jWO DOTS ABOVEfVERTICALLY ABOVEziLEFa FINAL FORMkISOLATED FORMnMAKSURA",
    "a FINAL FORMkISOLATED FORMvWASLAa FINAL FORMkISOLATED FORM",
    "sITH ATTACHED BOTTOM RIGHT KASRAa AND DOT ABOVEjLEFT RINGzhFATHAfKASRA",
    "fLEFT HAMZAfROUND DOToRIGHT HAMZAfROUND DOToOUND DOT ABOVEfBELOW",
    "pTOP RIGHT FATHAa AND DOT ABOVEjLEFT RINGznDOT ABOVE",
    "jEXTENDED ARABIC-INDIC DIGIT THREE ABOVEkWO ABOVEzmHAMZA ABOVE",
    "a FINAL FORMkISOLATED FORMtBELOWa FINAL FORMkISOLATED FORMz",
    "aLEFT MIDDLE STROKEsMADDA ABOVEa FINAL FORMkISOLATED FORMz",
    "aRIGHT MIDDLE STROKEa AND DOT ABOVEjLEFT RINGziWAVY HAMZA ABOVEfBELOWz",
    "bBEEHa FINAL FORMkINITIAL FORMlSOLATED FORMnMEDIAL FORMoHa FINAL FORM",
    "kINITIAL FORMlSOLATED FORMnMEDIAL FORM",
    "lWITH DOT BELOW AND THREE DOTS ABOVEzfHAMZA ABOVElINVERTED SMALL V BELOW",
    "wSMALL MEEM ABOVEkVa BELOWnTHREE DOTS HORIZONTALLY BELOW",
    "sPOINTING UPWARDS BELOWa AND TWO DOTS ABOVEzz",
    "bWO DOTS BELOW AND DOT ABOVEzjEHa FINAL FORMkINITIAL FORMlSOLATED FORM",
    "nMEDIAL FORMrDADa FINAL FORMkINITIAL FORMlSOLATED FORMnMEDIAL FORM",
    "lWITH DOT BELOWqHALa FINAL FORMkISOLATED FORMrLa FINAL FORM",
    "kISOLATED FORMnWITH DOT BELOWa AND SMALL TAHxFOUR DOTS ABOVE",
    "pINVERTED SMALL V BELOWnVkRINGeTHREE DOTS ABOVE DOWNWARDSpBELOW",
    "pWO DOTS VERTICALLY BELOW AND SMALL TAHzwDAHALa FINAL FORMkISOLATED FORM",
    "rLa FINAL FORMkISOLATED FORMrOTLESS BEHdFEHdQAFkULa FINAL FORM",
    "kISOLATED FORMqYEHa FINAL FORMkINITIAL FORMlSOLATED FORMnMEDIAL FORMqE",
    "a FINAL FORMkINITIAL FORMlSOLATED FORMnMEDIAL FORMnFARSI YEHa FINAL FORM",
    "kINITIAL FORMlSOLATED FORMnMEDIAL FORM",
    "lWITH EXTENDED ARABIC-INDIC DIGIT FOUR BELOWkTHREE ABOVEkWO ABOVEz",
    "mINVERTED VkTHREE DOTS ABOVEpWO DOTS ABOVEzdEHa FINAL FORMkINITIAL FORM",
    "lSOLATED FORMnMEDIAL FORMlWITH DOT BELOWa AND THREE DOTS ABOVEz",
    "bMOVED BELOWpTHREE DOTS BELOWfPOINTING UPWARDS BELOWzhWO DOTS BELOWxGAF",
    "a FINAL FORMkINITIAL FORMlSOLATED FORMnMEDIAL FORMlWITH INVERTED STROKE",
    "pRINGeTHREE DOTS ABOVEpWO DOTS BELOWwHAINa FINAL FORMkINITIAL FORM",
    "lSOLATED FORMnMEDIAL FORMlWITH DOT BELOWjTHREE DOTS ABOVEzbRAFdUEH",
    "a FINAL FORMkINITIAL FORMlSOLATED FORMnMEDIAL FORMqHAHa FINAL FORM",
    "kINITIAL FORMlSOLATED FORMnMEDIAL FORM",
    "lWITH EXTENDED ARABIC-INDIC DIGIT FOUR BELOWznHAMZA ABOVE",
    "lINVERTED SMALL V BELOWwSMALL ARABIC LETTER TAH ABOVEeND TWO DOTSmBELOWz",
    "eTHREE DOTS ABOVEfPOINTING UPWARDS BELOWzhWO DOTS ABOVEfVERTICAL ABOVEz",
    "fMZAa ISOLATED FORMsEHa DOACHASHMEEa FINAL FORMkINITIAL FORM",
    "lSOLATED FORMnMEDIAL FORMxFINAL FORMkGOALa FINAL FORMkINITIAL FORM",
    "lSOLATED FORMnMEDIAL FORMlWITH HAMZA ABOVEvINITIAL FORMlSOLATED FORM",
    "nMEDIAL FORMlWITH INVERTED VkYEH ABOVEa FINAL FORMkISOLATED FORMz",
    "gIGH HAMZAa ALEFeWAWdYEHoJEEMa FINAL FORMkINITIAL FORMlSOLATED FORM",
    "nMEDIAL FORMlWITH THREE DOTS ABOVEfBELOWpWO DOTS ABOVEwHa FINAL FORM",
    "kISOLATED FORMrKAFa FINAL FORMkINITIAL FORMlSOLATED FORMnMEDIAL FORM",
    "lWITH DOT ABOVEfBELOWjRINGeTHREE DOTS BELOWpWO DOTS ABOVEvSHMIRI YEH",
    "lEHEHa FINAL FORMkINITIAL FORMlSOLATED FORMnMEDIAL FORMlWITH DOT ABOVE",
    "jSMALL VhTHREE DOTS ABOVEfBELOWfPOINTING UPWARDS BELOWzhWO DOTS ABOVE",
    "fVERTICALLY BELOWzkHAHa FINAL FORMkINITIAL FORMlSOLATED FORMnMEDIAL FORM",
    "pIRGHIZ OEa FINAL FORMkISOLATED FORMqYUa FINAL FORMkISOLATED FORMyLAM",
    "a FINAL FORMkINITIAL FORMlSOLATED FORMnMEDIAL FORMlWITH BARdDOT ABOVE",
    "hUBLE BARkSMALL ARABIC LETTER TAH ABOVExVhTHREE DOTS ABOVEfBELOWyOW ALEF",
    "iMARKdEEMa FINAL FORMkINITIAL FORMlSOLATED FORMnMEDIAL FORM",
    "lWITH DOT ABOVEfBELOWjTHREE DOTS ABOVEzbNGa FINAL FORMkINITIAL FORM",
    "lSOLATED FORMnMEDIAL FORMmOEHa FINAL FORMkINITIAL FORMlSOLATED FORM",
    "nMEDIAL FORMqOONa FINAL FORMkGHUNNAa FINAL FORMkISOLATED FORM",
    "uINITIAL FORMlSOLATED FORMnMEDIAL FORMlWITH DOT BELOWjINVERTED SMALL V",
    "qRINGeSMALL TAHdVhTHREE DOTS ABOVEpWO DOTS BELOWxYEHa FINAL FORM",
    "kINITIAL FORMlSOLATED FORMnMEDIAL FORMqOEa FINAL FORMkISOLATED FORMqPEH",
    "a FINAL FORMkINITIAL FORMlSOLATED FORMnMEDIAL FORMlWITH SMALL MEEM ABOVE",
    "kVnEHa FINAL FORMkINITIAL FORMlSOLATED FORMnMEDIAL FORMrQAFa FINAL FORM",
    "kINITIAL FORMlSOLATED FORMnMEDIAL FORMlWITH DOT ABOVEfBELOW",
    "a AND NO DOTS ABOVEzcTHREE DOTS ABOVEzaREHa FINAL FORMkISOLATED FORM",
    "nWITH DOT BELOWa AND DOT ABOVExFOUR DOTS ABOVEpHAMZA ABOVElINVERTED V",
    "kLOOPeRINGeSMALL ARABIC LETTER TAH AND TWO DOTSzfNOON ABOVEkVa BELOW",
    "mTROKEgTWO DOTS ABOVEfVERTICALLY ABOVEziNOONa FINAL FORMkINITIAL FORM",
    "lSOLATED FORMnMEDIAL FORMqOHINGYA YEHlREHa FINAL FORMkISOLATED FORMsSAD",
    "a FINAL FORMkINITIAL FORMlSOLATED FORMnMEDIAL FORMlWITH THREE DOTS ABOVE",
    "fBELOWpWO DOTS BELOWwEENa FINAL FORMkINITIAL FORMlSOLATED FORM",
    "nMEDIAL FORMlWITH DOT BELOW AND DOT ABOVE",
    "xEXTENDED ARABIC-INDIC DIGIT FOUR ABOVEznFOUR DOTS ABOVEpINVERTED V",
    "kSMALL ARABIC LETTER TAH AND TWO DOTSzlTHREE DOTS BELOW",
    "a AND THREE DOTS ABOVEzlWO DOTS VERTICALLY ABOVEzjHEENa FINAL FORM",
    "kINITIAL FORMlSOLATED FORMnMEDIAL FORMlWITH DOT BELOWtTRAIGHT WAW",
    "lUPERSCRIPT ALEFpWASH KAFjTAHa FINAL FORMkINITIAL FORMlSOLATED FORM",
    "nMEDIAL FORMlWITH DOT BELOWjTHREE DOTS ABOVEfBELOWpWO DOTS ABOVEwCHEH",
    "a FINAL FORMkINITIAL FORMlSOLATED FORMnMEDIAL FORMlWITH DOT ABOVE",
    "jSMALL VnEHa FINAL FORMkINITIAL FORMlSOLATED FORMnMEDIAL FORMsEH",
    "a FINAL FORMkINITIAL FORMlSOLATED FORMnMARBUTAa FINAL FORMkGOAL",
    "eISOLATED FORMuEDIAL FORMlWITH RINGeSMALL TEH ABOVEjV",
    "hTHREE DOTS ABOVE DOWNWARDSzhEHa FINAL FORMkINITIAL FORMlSOLATED FORM",
    "nMEDIAL FORMqHALa FINAL FORMkISOLATED FORMqEHa FINAL FORMkINITIAL FORM",
    "lSOLATED FORMnMEDIAL FORMoIN YEHhTEHa FINAL FORMkINITIAL FORM",
    "lSOLATED FORMnMEDIAL FORMlWITH SMALL VnEHa FINAL FORMkINITIAL FORM",
    "lSOLATED FORMnMEDIAL FORMsUa FINAL FORMkISOLATED FORMnWITH HAMZA ABOVE",
    "a ISOLATED FORMzgIGHUR KAZAKH KIRGHIZ ALEF MAKSURA INITIAL FORM",
    "mMEDIAL FORMzvVEa FINAL FORMkISOLATED FORMoHa FINAL FORMkINITIAL FORM",
    "lSOLATED FORMnMEDIAL FORMpWAWa FINAL FORMkISOLATED FORMnWITH DOT ABOVE",
    "fWITHINkEXTENDED ARABIC-INDIC DIGIT THREE ABOVEkWO ABOVEzmHAMZA ABOVE",
    "a FINAL FORMkISOLATED FORMzaRINGeTWO DOTS ABOVExYEHa BARREEa FINAL FORM",
    "kISOLATED FORMnWITH EXTENDED ARABIC-INDIC DIGIT THREE ABOVEkWO ABOVEz",
    "mHAMZA ABOVEa FINAL FORMkISOLATED FORMzmFINAL FORMkINITIAL FORM",
    "lSOLATED FORMnMEDIAL FORMlWITH HAMZA ABOVEa FINAL FORMkINITIAL FORM",
    "lSOLATED FORMnMEDIAL FORMxSMALL VhTAILdHREE DOTS BELOW",
    "pWO DOTS BELOW AND DOT ABOVEjHAMZA ABOVElSMALL NOON ABOVEzsUa FINAL FORM",
    "kISOLATED FORMqZAHa FINAL FORMkINITIAL FORMlSOLATED FORMnMEDIAL FORMnIN",
    "a FINAL FORMkISOLATED FORMnWITH INVERTED V ABOVEz",
    "hIGATURE AIN WITH ALEF MAKSURA FINAL FORMkISOLATED FORMz",
    "bJEEM INITIAL FORMlSOLATED FORMnWITH MEEM FINAL FORMkINITIAL FORMz",
    "cMEEM INITIAL FORMlSOLATED FORMnWITH ALEF MAKSURA FINAL FORM",
    "xMEEM FINAL FORMkINITIAL FORMrYEH FINAL FORMyYEH FINAL FORM",
    "kISOLATED FORMzaKBAR ISOLATED FORMsLAYHAA AS-SALAAMmE ISOLATED FORM",
    "pI AS-SALAAMbTU WAS-SALAAMwM AS-SALAAMkAA AS-SALAAM",
    "rEF MAKSURA WITH SUPERSCRIPT ALEF FINAL FORMkISOLATED FORMz",
    "sWITH FATHATAN FINAL FORMkISOLATED FORMzfLAH ISOLATED FORMsZZA WA JALL",
    "mBEH WITH ALEF MAKSURA FINAL FORMkISOLATED FORMzbHAH INITIAL FORM",
    "lSOLATED FORMnWITH YEH FINAL FORMwEH INITIAL FORMmMEDIAL FORM",
    "pJEEM INITIAL FORMlSOLATED FORMsKHAH INITIAL FORMlSOLATED FORM",
    "nWITH YEH FINAL FORMyMEEM FINAL FORMkINITIAL FORMlSOLATED FORM",
    "nMEDIAL FORMqNOON FINAL FORMpREH FINAL FORMoYEH FINAL FORMkISOLATED FORM",
    "rZAIN FINAL FORMxISMILLAH AR-RAHMAN AR-RAHEEMz",
    "eDAD WITH ALEF MAKSURA FINAL FORMkISOLATED FORMzbHAH INITIAL FORM",
    "lSOLATED FORMnWITH ALEF MAKSURA FINAL FORMxYEH FINAL FORM",
    "xJEEM INITIAL FORMlSOLATED FORMsKHAH INITIAL FORMlSOLATED FORM",
    "nWITH MEEM FINAL FORMkINITIAL FORMzcMEEM INITIAL FORMlSOLATED FORM",
    "sREH FINAL FORMkISOLATED FORMrYEH FINAL FORMkISOLATED FORMz",
    "bFEH WITH ALEF MAKSURA FINAL FORMkISOLATED FORMzbHAH INITIAL FORM",
    "lSOLATED FORMrJEEM INITIAL FORMlSOLATED FORMsKHAH INITIAL FORM",
    "lSOLATED FORMnWITH MEEM FINAL FORMkINITIAL FORMzcMEEM INITIAL FORM",
    "lSOLATED FORMnWITH YEH FINAL FORMyYEH FINAL FORMkISOLATED FORMz",
    "bGHAIN WITH ALEF MAKSURA FINAL FORMkISOLATED FORMzbJEEM INITIAL FORM",
    "lSOLATED FORMsMEEM INITIAL FORMlSOLATED FORM",
    "nWITH ALEF MAKSURA FINAL FORMxMEEM FINAL FORMpYEH FINAL FORM",
    "yYEH FINAL FORMkISOLATED FORMzdHAH WITH ALEF MAKSURA FINAL FORM",
    "kISOLATED FORMzbJEEM INITIAL FORMlSOLATED FORMnWITH YEH FINAL FORM",
    "yMEEM INITIAL FORMlSOLATED FORMnWITH ALEF MAKSURA FINAL FORM",
    "xYEH FINAL FORMyYEH FINAL FORMkISOLATED FORMz",
    "aEH WITH ALEF MAKSURA ISOLATED FORMzbJEEM INITIAL FORMlSOLATED FORM",
    "sMEEM INITIAL FORMlSOLATED FORMnWITH JEEM INITIAL FORMrMEEM INITIAL FORM",
    "zcSUPERSCRIPT ALEF INITIAL FORMzeYEH ISOLATED FORMzbJALLAJALALOUHOU",
    "oEEM WITH ALEF MAKSURA FINAL FORMkISOLATED FORMzbHAH INITIAL FORM",
    "lSOLATED FORMnWITH ALEF MAKSURA FINAL FORMxYEH FINAL FORM",
    "xMEEM INITIAL FORMlSOLATED FORMnWITH ALEF MAKSURA FINAL FORM",
    "xHAH FINAL FORMkINITIAL FORMqYEH FINAL FORMyYEH FINAL FORMkISOLATED FORM",
    "zcKAF WITH ALEF FINAL FORMkISOLATED FORMnMAKSURA FINAL FORM",
    "kISOLATED FORMzbHAH INITIAL FORMlSOLATED FORMrJEEM INITIAL FORM",
    "lSOLATED FORMsKHAH INITIAL FORMlSOLATED FORMsLAM FINAL FORMkINITIAL FORM",
    "lSOLATED FORMnMEDIAL FORMpMEEM FINAL FORMkINITIAL FORMlSOLATED FORM",
    "nMEDIAL FORMlWITH MEEM FINAL FORMkINITIAL FORMrYEH FINAL FORM",
    "yYEH FINAL FORMkISOLATED FORMzaHAH WITH ALEF MAKSURA FINAL FORM",
    "kISOLATED FORMzbHAH ISOLATED FORMrJEEM INITIAL FORMlSOLATED FORM",
    "sMEEM INITIAL FORMlSOLATED FORMsYEH FINAL FORMkISOLATED FORMz",
    "cLAM WITH ALEF FINAL FORMkISOLATED FORMnMAKSURA FINAL FORMkISOLATED FORM",
    "vWITH HAMZA ABOVE FINAL FORMkISOLATED FORMtBELOW FINAL FORM",
    "kISOLATED FORMzaMADDA ABOVE FINAL FORMkISOLATED FORMzkHAH INITIAL FORM",
    "lSOLATED FORMnWITH ALEF MAKSURA FINAL FORMxMEEM FINAL FORMkINITIAL FORM",
    "rYEH FINAL FORMwEH INITIAL FORMqJEEM INITIAL FORMlSOLATED FORM",
    "nWITH JEEM FINAL FORMkINITIAL FORMrMEEM FINAL FORMkINITIAL FORM",
    "rYEH FINAL FORMyKHAH INITIAL FORMlSOLATED FORMnWITH MEEM FINAL FORM",
    "kINITIAL FORMzcMEEM FINAL FORMkINITIAL FORMlSOLATED FORMnMEDIAL FORM",
    "lWITH HAH FINAL FORMkINITIAL FORMqYEH FINAL FORMyYEH FINAL FORM",
    "kISOLATED FORMzbMEEM WITH ALEF FINAL FORMkMAKSURA ISOLATED FORMz",
    "bHAH INITIAL FORMlSOLATED FORMnWITH JEEM INITIAL FORMrMEEM INITIAL FORM",
    "rYEH FINAL FORMxJEEM INITIAL FORMlSOLATED FORMnWITH HAH INITIAL FORM",
    "qKHAH INITIAL FORMrMEEM INITIAL FORMrYEH FINAL FORMyKHAH INITIAL FORM",
    "lSOLATED FORMnWITH JEEM INITIAL FORMrMEEM INITIAL FORMrYEH FINAL FORM",
    "yMEEM FINAL FORMkINITIAL FORMlSOLATED FORMnWITH YEH FINAL FORM",
    "yYEH ISOLATED FORMzbOHAMMAD ISOLATED FORM",
    "wNOON WITH ALEF MAKSURA FINAL FORMkISOLATED FORMzbHAH INITIAL FORM",
    "lSOLATED FORMnWITH ALEF MAKSURA FINAL FORMxMEEM INITIAL FORM",
    "rYEH FINAL FORMwEH INITIAL FORMmMEDIAL FORMpJEEM INITIAL FORM",
    "lSOLATED FORMnWITH ALEF MAKSURA FINAL FORMxHAH FINAL FORMkINITIAL FORM",
    "qMEEM FINAL FORMkINITIAL FORMrYEH FINAL FORMyKHAH INITIAL FORM",
    "lSOLATED FORMsMEEM FINAL FORMkINITIAL FORMlSOLATED FORMnMEDIAL FORM",
    "lWITH ALEF MAKSURA FINAL FORMxYEH FINAL FORMyNOON FINAL FORM",
    "pREH FINAL FORMoYEH FINAL FORMkISOLATED FORMrZAIN FINAL FORMz",
    "aQAF WITH ALEF MAKSURA FINAL FORMkISOLATED FORMzbHAH INITIAL FORM",
    "lSOLATED FORMrMEEM INITIAL FORMlSOLATED FORMnWITH HAH FINAL FORM",
    "kINITIAL FORMqMEEM FINAL FORMpYEH FINAL FORMyYEH FINAL FORM",
    "kISOLATED FORMyLA USED AS KORANIC STOP SIGN ISOLATED FORMzsUDDISA SIRRAH",
    "oRADI ALLAAHU ANHaAAcUMaAAdNNAsHIMAHU ALLAAHhM ALLAAHoSOUL ISOLATED FORM",
    "tEH WITH SUPERSCRIPT ALEF ISOLATED FORMz",
    "oSAD WITH ALEF MAKSURA FINAL FORMkISOLATED FORMzbHAH INITIAL FORM",
    "lSOLATED FORMnWITH HAH FINAL FORMkINITIAL FORMqYEH FINAL FORM",
    "xKHAH INITIAL FORMrMEEM INITIAL FORMlSOLATED FORMnWITH MEEM FINAL FORM",
    "kINITIAL FORMzcREH FINAL FORMkISOLATED FORMrYEH FINAL FORMkISOLATED FORM",
    "yLAAMUHU ALAYNAAnM ISOLATED FORMqLA ISOLATED FORM",
    "nUSED AS KORANIC STOP SIGN ISOLATED FORMzpLLAAHU ALAYHI WA-AALIH",
    "tHOU ALAYHE WASALLAMsU ALAYHI WAAALIHEE WA-SALLAMz",
    "lEEN WITH ALEF MAKSURA FINAL FORMkISOLATED FORMzbHAH INITIAL FORM",
    "lSOLATED FORMnMEDIAL FORMlWITH JEEM INITIAL FORMzaEH INITIAL FORM",
    "mMEDIAL FORMpJEEM INITIAL FORMlSOLATED FORMnMEDIAL FORM",
    "lWITH ALEF MAKSURA FINAL FORMxHAH INITIAL FORMzbKHAH INITIAL FORM",
    "lSOLATED FORMnMEDIAL FORMlWITH ALEF MAKSURA FINAL FORMxYEH FINAL FORM",
    "yMEEM INITIAL FORMlSOLATED FORMnMEDIAL FORMlWITH HAH FINAL FORM",
    "kINITIAL FORMqJEEM INITIAL FORMrMEEM FINAL FORMkINITIAL FORMz",
    "cREH FINAL FORMkISOLATED FORMrYEH FINAL FORMkISOLATED FORMz",
    "bHADDA WITH DAMMA ISOLATED FORMnMEDIAL FORMmTAN ISOLATED FORM",
    "wFATHA ISOLATED FORMnMEDIAL FORMrKASRA ISOLATED FORMnMEDIAL FORM",
    "mTAN ISOLATED FORMwSUPERSCRIPT ALEF ISOLATED FORMz",
    "pEEN WITH ALEF MAKSURA FINAL FORMkISOLATED FORMzbHAH FINAL FORM",
    "kINITIAL FORMlSOLATED FORMnMEDIAL FORMlWITH MEEM FINAL FORMkINITIAL FORM",
    "rYEH FINAL FORMwEH INITIAL FORMmMEDIAL FORMpJEEM FINAL FORMkINITIAL FORM",
    "lSOLATED FORMnMEDIAL FORMlWITH YEH FINAL FORMyKHAH FINAL FORM",
    "kINITIAL FORMlSOLATED FORMnMEDIAL FORMqMEEM FINAL FORMkINITIAL FORM",
    "lSOLATED FORMnMEDIAL FORMlWITH KHAH FINAL FORMkINITIAL FORM",
    "rMEEM FINAL FORMkINITIAL FORMzcREH FINAL FORMkISOLATED FORM",
    "rYEH FINAL FORMkISOLATED FORMzcUBHAANAHU WA TAAALAAvTABAARAKA WA-TAAALAA",
    "sH WITH ALEF MAKSURA FINAL FORMkISOLATED FORMzbHAH INITIAL FORM",
    "lSOLATED FORMrMEEM INITIAL FORMlSOLATED FORMnMEDIAL FORM",
    "lWITH HAH FINAL FORMkINITIAL FORMqMEEM INITIAL FORMrYEH FINAL FORM",
    "yYEH FINAL FORMkISOLATED FORMzaEH WITH ALEF MAKSURA FINAL FORM",
    "kISOLATED FORMzbHAH INITIAL FORMlSOLATED FORMnWITH JEEM FINAL FORM",
    "kINITIAL FORMrMEEM INITIAL FORMzaEH INITIAL FORMmMEDIAL FORM",
    "pJEEM INITIAL FORMlSOLATED FORMnWITH ALEF MAKSURA FINAL FORM",
    "xMEEM INITIAL FORMrYEH FINAL FORMyKHAH INITIAL FORMlSOLATED FORM",
    "nWITH ALEF MAKSURA FINAL FORMxMEEM INITIAL FORMrYEH FINAL FORM",
    "yMEEM FINAL FORMkINITIAL FORMlSOLATED FORMnMEDIAL FORM",
    "lWITH ALEF MAKSURA FINAL FORMxHAH INITIAL FORMqJEEM INITIAL FORM",
    "rKHAH INITIAL FORMrYEH FINAL FORMyNOON FINAL FORMpREH FINAL FORM",
    "oYEH FINAL FORMkISOLATED FORMrZAIN FINAL FORM",
    "xHAL WITH SUPERSCRIPT ALEF ISOLATED FORMz",
    "nEH WITH ALEF MAKSURA FINAL FORMkISOLATED FORMzbHEH MEDIAL FORM",
    "pJEEM ISOLATED FORMsMEEM FINAL FORMkINITIAL FORMlSOLATED FORM",
    "nMEDIAL FORMqNOON FINAL FORMpREH FINAL FORMoYEH FINAL FORMkISOLATED FORM",
    "rZAIN FINAL FORMz",
    "aUIGHUR KIRGHIZ YEH WITH HAMZA ABOVE WITH ALEF MAKSURA FINAL FORM",
    "kINITIAL FORMlSOLATED FORMzzrWASALLAM ISOLATED FORM",
    "wYEH WITH ALEF MAKSURA FINAL FORMkISOLATED FORMzbHAH INITIAL FORM",
    "lSOLATED FORMnWITH YEH FINAL FORMvMZA ABOVE WITH AE FINAL FORM",
    "kISOLATED FORMpLEF FINAL FORMkISOLATED FORMnMAKSURA FINAL FORM",
    "kISOLATED FORMzbE FINAL FORMkINITIAL FORMlSOLATED FORMpHAH INITIAL FORM",
    "lSOLATED FORMqEH INITIAL FORMmMEDIAL FORMpJEEM INITIAL FORMlSOLATED FORM",
    "sKHAH INITIAL FORMrMEEM FINAL FORMkINITIAL FORMlSOLATED FORMnMEDIAL FORM",
    "qNOON FINAL FORMpOE FINAL FORMkISOLATED FORMqREH FINAL FORMoU FINAL FORM",
    "kISOLATED FORMpWAW FINAL FORMkISOLATED FORMrYEH FINAL FORMkISOLATED FORM",
    "qU FINAL FORMkISOLATED FORMqZAIN FINAL FORMzgEH INITIAL FORMmMEDIAL FORM",
    "pJEEM INITIAL FORMlSOLATED FORMnWITH YEH FINAL FORMyKHAH INITIAL FORM",
    "lSOLATED FORMsMEEM FINAL FORMkINITIAL FORMlSOLATED FORMnMEDIAL FORM",
    "lWITH MEEM FINAL FORMkINITIAL FORMrYEH FINAL FORMyNOON FINAL FORM",
    "pREH FINAL FORMoYEH FINAL FORMkISOLATED FORMrZAIN FINAL FORM",
    "yZAH WITH MEEM INITIAL FORMlSOLATED FORMnMEDIAL FORMzjMADDA WAAJIB",
    "hH ABOVEkRK NOON GHUNNAlSIDEWAYS NOON GHUNNAxTHEMATICAL AINcLEFeBEHdDAD",
    "bLcOTLESS BEHdFEHdNOONeQAFjUBLE-STRUCK AINdBEHdDADbLdFEHdGHAINfHAHdJEEM",
    "eKHAHeLAMdMEEMeNOONeQAFdREHdSADcEENdHEENfTAHcEHcHALcEHeWAWdYEHdZAHbIN",
    "sFEHdGHAINfHAHdINITIAL AINdBEHdDADdFEHdGHAINfHAHcEHdJEEMeKAFcHAHeLAM",
    "dMEEMeNOONeQAFdSADcEENdHEENfTEHcHEHeYEHlJEEMeKAFcHAHeLAMcOOPED AINcLEF",
    "eBEHdDADbLdFEHdGHAINfHAHcEHdJEEMeKHAHeLAMdMEEMeNOONeQAFdREHdSADcEENdHEEN",
    "fTAHcEHcHALcEHeWAWdYEHdZAHbINlMEEMeNOONeOPERATOR HAH WITH DAL",
    "mMEEM WITH HAH WITH TATWEELzkQAFdREHdSADcEENdHEENeTRETCHED AINdBEHdDAD",
    "cOTLESS BEHdFEHlFEHdGHAINfHAHcEHdJEEMeKAFcHAHeMEEMeNOONeQAFdSADcEENdHEEN",
    "fTAHcEHcHEHeYEHdZAHnTAHbILED AINdDADcOTLESS NOONeQAFlGHAINfHAHdJEEMeKHAH",
    "eLAMdNOONeQAFdSADcEENdHEENfYEHjEHcHALcEHeWAWdYEHdZAHbIN",
    "rNUMBER MARK ABOVEkSIGNlOPEN DAMMATANiFATHATANiKASRATANnPERCENT SIGN",
    "lIASTRE MARK ABOVErLACE OF SAJDAHoOETIC VERSE SIGNpUND MARK ABOVE",
    "qQUESTION MARKnRAISED ROUND DOToYcEVERSED DAMMAnIGHT ARROWHEAD ABOVE",
    "a WITH DOToBELOWuOUNDED HIGH STOP WITH FILLED CENTREzlSEMICOLONiHADDA",
    "a ISOLATED FORMnMEDIAL FORMrIGN ALAYHE ASSALLAMpMISRAfRADI ALLAHOU ANHU",
    "pHMATULLAH ALAYHEsSAFHAdLLALLAHOU ALAYHE WASSALLAMzbMVATeNAH",
    "eINDHI AMPERSANDjPOSTPOSITION MENxTAKHALLUSnMALL DAMMAfFARSI YEHhTHA",
    "fHIGH AINdDOTLESS HEAD OF KHAHuFARSI YEHiOOTNOTE MARKERpJEEMeLAM ALEF",
    "hIGATURE ALEF WITH LAM WITH YEHwQAF WITH LAM WITH ALEF MAKSURAz",
    "fSAD WITH LAM WITH ALEF MAKSURAzoMADDAeEEM INITIAL FORMlSOLATED FORM",
    "sNOONa WITH KASRApQAFdROUNDED ZEROmSADcEENdIGN SAFHAkTAHcHREE DOTS",
    "kUPRIGHT RECTANGULAR ZEROyWAWcORD AL-JUZfN-NISFgR-RUBfS-SAJDA",
    "hTH-THALATHAmQIFdSAHbKTAfWAQFAkYEHa BARREE WITH TWO DOTS BELOWzfZAHbIN",
    "jKASRAfLOW MEEMeNOON WITH KASRApSEENeWAWcORD IMAALAfSHMAAMhTASHEELqWAW",
    "dYEHiTART OF RUB EL HIZBtUBSCRIPT ALEFmKUNa BELOWfISOLATED FORM",
    "nMEDIAL FORMpPERSCRIPT ALEF MOKHASSASzaYMBOL DOT ABOVEfBELOW",
    "hUBLE VERTICAL BAR BELOWzaFOUR DOTS ABOVEfBELOWpRINGeSMALL TAH ABOVE",
    "fBELOWpTHREE DOTS ABOVEfBELOWfPOINTING DOWNWARDS ABOVEfBELOWz",
    "jWO DOTS ABOVEfBELOWfVERTICALLY ABOVEfBELOWzaWASLA ABOVEsTAIL FRAGMENT",
    "lTWEELa WITH FATHATAN ABOVEoOVERSTRUCK HAMZAfWAWoTWO DOTS BELOWz",
    "bHOUSANDS SEPARATORsONE LOOP ABOVEfBELOWkONE DOT ABOVEfBELOW",
    "nTWO DOTS ABOVEfBELOWsRIPLE DOT PUNCTUATION MARKzbURNED DAMMA BELOW",
    "sVERTICAL TAILmOWEL SIGN DOT BELOWjINVERTED SMALL V ABOVEwSMALL V ABOVE",
    "yWAVY HAMZA BELOWqZWARAKAYj-INDIC CUBE ROOTjDIGIT EIGHTfFIVEdOUReNINE",
    "eONEdSEVENeIXdTHREEeWOdZEROkFOURTH ROOTlPER MILLE SIGNkTEN THOUSAND SIGN",
    "zhCbIESdMENIAN ABBREVIATION MARKqPOSTROPHEkCAPITAL LETTER AYBdBENdCAbHA",
    "bEHdOcDAcECHcHbTcFEHdGHADdIMdHOcINIdJAbHEHeKEHbNdLIWNeMENdNOWdOHcPEHcIWR",
    "eRAbEHdSEHcHAdTIWNdOcVEWcOcXEHdYIaWNeZAbHErOMMAfDRAM SIGNjEMPHASIS MARK",
    "mXCLAMATION MARKqFULL STOPjHYPHENgMODIFIER LETTER LEFT HALF RINGz",
    "fQUESTION MARKnSMALL LETTER AYBdBENdCAbHAbEHdOcDAcECHcHbTcFEHdGHADdIMdHO",
    "cINIdJAbHEHeKEHbNdLIWNeMENdNOWdOHcPEHcIWReRAbEHdSEHcHAdTIWNdObURNED AYB",
    "kVEWcOcXEHdYIa WITH STROKEmWNeZAbHEjIGATURE ECH YIWNiMEN ECHdINIdNOWdXEH",
    "hVEW NOWzeROW POINTING DOWNWARDS THEN CURVING LEFTWARDSjRIGHTWARDSz",
    "iRIGHTWARDS THEN CURVING DOWNWARDSjSOUTH WESTkUPWARDSz",
    "gUPWARDS THEN NORTH WESTziHEAD-SHAPED POINTERwTICULATED LORRYnST PALETTE",
    "nSCENDING NODElIA SYMBOLkSERTIONhTERISKa OPERATORkMfONISHED FACEmRAEA",
    "dONOMICAL SYMBOL FOR URANUSzdYMPTOTICALLY EQUAL TOwTHLETIC SHOE",
    "lOM SYMBOLkUBERGINEhSTRAL SIGNkTO RICKSHAWjMATED TELLER MACHINEtOBILE",
    "jVESTAN ABBREVIATION MARKrLETTER AaAaNbOcEaEcNbOcBEbHEdCEcDEbHEdEaEcFE",
    "cGEbGEcHEdHEbMEdIaIcJEcKEcLEcMEcNEbGEbVEcYEdNEcYEdOaOcPEcREcSEbHEbYEdSHE",
    "eTEbHEcTEdUaUcVEcXEbVEcYEdYEbYEdZEbHEqOCADOgXEdBABYa ANGELfBOTTLEgCHICK",
    "fSYMBOLjCK OF ENVELOPElWITH LEFTWARDS ARROW ABOVEz",
    "c-TILTED SHADOWED WHITE RIGHTWARDS ARROWz",
    "oSLANTED SOUTH ARROW WITH HOOKED TAILjRIZONTAL TAILzoPACEgONcTRIAN CAMEL",
    "mDGERdMINTON RACQUET AND SHUTTLECOCKzgGELcGAGE CLAIMkUETTE BREAD",
    "mLINESE ADEG ADEGjCARIK PAMUNGKAHhRERENhSIKIkDIGIT EIGHTfFIVEdOUReNINE",
    "eONEdSEVENeIXdTHREEeWOdZEROkLETTER AIKARAfKARAa TEDUNGlRCHAIC JNYA",
    "lSYURA SASAKmBAa KEMBANGkCAa LACAhDAa MADUdURDA ALPAPRANAjMAHAPRANA",
    "sEF SASAKhKARAfGAa GORAhHAcIKARAa TEDUNGmJAa JERAhKAa MAHAPRANAkF SASAK",
    "iHOT SASAKkLAa LENGAa TEDUNGpMAcNAa RAMBATiGAcYAdOKARAa TEDUNGmPAa KAPAL",
    "iRAa REPAa TEDUNGoSAa SAGAcPAhTAa LATIKfMURDA MAHAPRANApTAWAgZIR SASAK",
    "kUKARAa TEDUNGmVE SASAKiWAcYAcZAL SASAKqMUSICAL SYMBOL COMBINING BENDE",
    "fENDEPfGONGeJEGOGANhKEMPLIa WITH JEGOGANpULa WITH JEGOGANtTEGEHpDAENG",
    "dINGdNGa GEDEeSURANGkENGcUNGeINGdONGdUNGeLEFT-HAND CLOSED PLAKcUK",
    "lOPEN PANGdINGdUNGtRIGHT-HAND CLOSED TAKcUKkOPEN DAGcUGzjPAMADAa LANTANG",
    "lENENGgNTIa LANTANGnSIGN BISAHfCECEKfREREKANhSURANGgULU CANDRAgRICEM",
    "oVOWEL SIGN LA LENGAa TEDUNGpPEPETa TEDUNGmRA REPAa TEDUNGoSUKUa ILUT",
    "jTALINGa REPAa TEDUNGlTEDUNGmEDUNGgULUa SARItWINDUlL OF YARNiET SHOES",
    "iOONa-SPOKED ASTERISKsT BOLD SCRIPT XlXa WITH BALLOTfOLD CHECKfSCRIPT X",
    "nCHECKfLIGHT XhSCRIPT XiXkSCRIPT XiXgMUM COLONdMBINING MARK KOQNDON",
    "hTUKWENTISvMAfFULL STOPjLETTER AbEEcFAAMAEfEEcOMcUcIbKAbENbTbUXdIbOaGHOM",
    "eVUUePAcUbYEEeLAbEEEEeIbOQcUcMaAbBAAcENdEEEEdNcIbObUcNAbDAAdGAbGAcKWAEN",
    "gIbJAEMdEEcUAEeSHAdTEEcUUdUaAEdYIdObPAbEEbUXdHASE-A FIRIeGBIEE FON",
    "iHEUAEGHEUAEgRAEjKAFAcQcETbUKEUTNDAjPOQdUOQeLAPAQeET KUTgOMMAEfUaAEP",
    "fMAEKEUPeMaBGBIEEgKPENeVEUXfNYIdSIdNSUAEfP PIEETiBANYIdQdEUNJOMNDEUQ",
    "lGBASAfON NGGEUAETkOMEUTdPUQgVEUAENGAMkNAA MFONgQcDA LEERAEWAjANGGEUAET",
    "lENcGANGUeGENdKUE MFONfNZEUMjIKAdJAMdKAARAEfINDIfSHAbIEEfTAPa MFAAeNTAA",
    "hOQPENgYETcIaT MONGKEUAEQoZA MFONgUN MEUTjPA LEERAEWAjAMbRAEeMSHAEfSHAE",
    "fETcON MFON PIPAEMBAcGBIEEqPA NJI PIPAEMBAcGBIEEvUPdROMdSEUNYAM",
    "gHINDA PA NJIkRAEeOQ NSHUT YUMmUENSHUEThMdISAdONJAMeQbTcUUdTEUAENdTEUWEN",
    "iITA MFONiU MAEMBAhAEPfU YUQ NAEiNKNOWNhVEEfB FEEbUXeGHEUGHENbUAEMlKAM",
    "cEUAEMdPUQdYEUXgIEEMdQdLAANAEeM NSHUT NYAMnETcOM NTEUMjMAa NJEUAENAgUQA",
    "hBA MAELEEhARAEfEURIeIT MBAAKETkUOQeEUQbT NGGEETkFIYAQeON TEUAEQkONTIEEN",
    "iNDU NJAAhGGAAMdEU MBUgUOQa LARGEkKINDI MVOPkOMdSENcHUETfTIEE SHEUOQ",
    "lYAEMAEfI NTEUMjPARUMeEESHIfITcUNGAAMhSAKEUAEgET TUfHET NJAQgUAEQTUiIEE",
    "dUEdTAAMdU MAEMGBIEEjNSIEEiVEUMeWUAETfYAFU LEERAEWAmEURAEiC BUNGeFUE",
    "dGBAYIeHAPbRAEgKAAcEN FATIGUEhLAWfTbUKAQdMbSEUXdHEUAEPjPARAQfUOP NKAARAE",
    "kTdLAMbPcIQcUcMA KEUAERIhNSIEEgEMBAdSIeBAA CABBAGE-TREEmPICKETiNYI",
    "eEEKEETfRAEdUMbXdIaRIEENfTcUAEMdEdGBASAQgIEEdUAEeNANSANAQgQcDAMbP",
    "cEUAEREEfTdIDAdOMBUfGAQcGENcUaAEN NYAMiEETdMbONeKAQcUE MAEMBAkOMdJAEMcM",
    "cEEEEdUXdUEQeSAbEUAENfHAQdOMcUNbOT NGOMjTAAcENbUNGBAgU MBIT",
    "hYIR MKPARAQ MEUNqZAbEUMfPENcINbRIEENhRUcSETFONeUXdHIQcUEQeUAETfTAASHAE",
    "gETbUTEUXgITA YUEfUAEPhVEUAEPENfXeWANGKUOQhUPdYAAcEUQdU MUOMAEhMbWOQ",
    "hD FAAcEUFEUAETjGHAAcEUAEgKETbUAETMEUNhMbOT MBUAEiPdUaNbOMcQcWAETeYEE",
    "eLEEEEdTbUAEPdMdIEEdOQcUMdMaAENJETfLEERIgBAAa SEVENiUOdEEEEdUNbTdFEUAEcT",
    "dIEEdOaNdGBEUNdIEEdOFUMgONIdUbVOPeNDAMcEEbUXdONdGGAAMaAEePcEUXdUOMdWAEN",
    "fKAPcEUAEQdRIeIEEdUNcYEEfIbJAPcEUAEMdTdIaEEdUEQeSHEEcUTdIEEPbTeUMdTEEbUM",
    "dUUdUbYAMcETcIbUEePAPcEEbUTAEfIPcUQbUTeRAEMdEN MUCHeOLDgIIdSAPbQcEUAEQ",
    "fHEEbUAEcXdIIcOQcUcOTcUAEcEbUdTAEcEEEEdUAENdNbTdIbOQcUaOTeWAPcUAEN",
    "fYAEMMAEgENcUOMbPcWOQhE AbFAaQcEEcOMcU CALLeIbREMEDYhEaTeGBETbUXeHAAMAE",
    "fETbUAEcNbXdOMeIbKETbUAEcXdIbObPEUXeUETcOPcTdLAAMcPbQcEUAEMfOMbONbTcQcU",
    "cMAaEaMcPbQcBEEbUMeENcFEUQeGBAbENeIaEEdONcUAEdVIdNAaEcDAA MY HOUSE",
    "iSOFTNESSkPcIAQcQcUNdGAbEUREUTgGEEEEdUAEaTfUAESHAE NYAMlPbRAEfKAaAMI",
    "eEUAEMdXdUMbPdOPbQcUAEaTfJAEMLIfEEa EPOCHhUXeKOMdSHIEEdUEbOPfTAPcUM",
    "dYI BETWEENhCLEAVERkZAQcUQeObPA PEOPLEfLURALhAaMdEEMcUTbXdIaEEQcTdOaONdU",
    "aAEbQcEbMdRAEbQcEUXdIMGBAgSAAcEEbTcHEUAEQfIQcOaQdOMcUAENfTAAaQcEN NTEUM",
    "iMbQcENbUaAEQfOOaNcQcUAEcMaAEfVEEbUAEeOMdWEUXdUEbOdYAPcEUAEaTdMbXdIEEcT",
    "cOQ COVERfSWIMMINGlUAENdEQcNbQfF EEcFOMdKAbENbTcObPAcUbYEEeLAbIbOQdMaA",
    "bBAAcENdEEEEeOcNDAAdGGAcKWAENgIbJAEMdUAEeSHAdTEEdUaAEdYIdPEEbUXdUAEeREE",
    "bNbUXdIEEcIcUcSAMBAeEUXdHIIcObUcIbUUdTAAbEcETdUbVUEQeWAbUEdYAbOQkIbUAEcE",
    "dRAEcEEbNbUXdIEEcIcUcSAMBAeEUXdHEUXdIIcObUcIbUUdTAAbEcENbTcIcUbWAbUEdYA",
    "bOQcUQkNJAEMLIhQUESTION MARKnSEMICOLONnNANAdJOcKaNOTE WITH DOLLAR SIGN",
    "lEURO SIGNjPOUND SIGNkYEN SIGNuR CHARTfOF SOAPiBER POLEjSEBALLfKET",
    "aBALL AND HOOPqSA VAH COMBINING HIGH TONEf-LOW TONEnLOW TONEf-MID TONE",
    "mMID TONEsFULL STOPjLETTER AbBAcCEcDHIIdOcEaEbNNIeFAcGAHcBUdHWAHeIbJOcKA",
    "bPAHeMBEdOaOcPAcSEcTOcUaWUdVUcWAaDDAfYEINdIEdZOrTaAK CONSONANT SIGN HbNG",
    "rLETTER AbBAcCAcDAcGAcHAcIbJAcKARO BAhLAcMAaNDAILING HAcNAcSAmBAdNAbDA",
    "cGAcORTHERN TAkYAdPAaKPAK WAjRAcSAbIMALUNGUN AbGAcHAcLAcMAcPAcRAcSAcWA",
    "cYAmOUTHERN TAlUbWAcYAjPANGOLATfONGONANkSIGN TOMPIjYMBOL BINDU JUDUL",
    "fNA METEKiPANGOLAThINARBORASxVOWEL SIGN EaEcIbKARO IbOgObPAKPAK EiU",
    "a FOR SIMALUNGUN SAziHaTUBeTERYgEACH WITH UMBRELLA",
    "qMED ASCENDING MUSICAL NOTESxDESCENDING MUSICAL NOTESyEIGHTH NOTES",
    "mSIXTEENTH NOTEStNScR FACEfDED PERSONlTING HEARTkVEReCAUSEfDbER MUGfTLE",
    "eLaLa PEPPERgSYMBOLgWITH CANCELLATION STROKEzaHOP BELL",
    "kNGALI ABBREVIATION SIGNqNJIdU LENGTH MARKoCURRENCY DENOMINATOR SIXTEEN",
    "tNUMERATOR FOUReONEa LESS THAN THE DENOMINATORzeTHREEeWOwDIGIT EIGHT",
    "fFIVEdOUReNINEeONEdSEVENeIXdTHREEeWOdZEROkGANDA MARKkISSHARgLETTER AaAbI",
    "bUcBAbHAdCAbHAdDAbDAbHAdHAdEbGAbHAdHAcIaIcJAbHAdKAbHAaNDA TAjLAcMAcNAbGA",
    "cNAcYAdObPAbHAdRAa WITH LOWER DIAGONALoMIDDLE DIAGONALwHAcRAdSAbHAcSAdTA",
    "bHAcTAbHAeUaUcVEDIC ANUSVARAnOCALIC LaLcRaRkYAbYAkRUPEE MARKeSIGN",
    "kSANDHI MARKkIGN ANUSVARAhVAGRAHAiCANDRABINDUlNUKTAfVIRAMAeSARGA",
    "mVOWEL SIGN AAbIbUcEbIaIcObUaUcVOCALIC LaLcRaRz",
    "bT ARROW POINTING DOWNWARDS THEN NORTH EASTzqO BOXgZENE RING",
    "a WITH CIRCLEwT SYMBOLhWEENfVERAGE BOXlHAIKSUKI DANDAeIGIT EIGHTfFIVE",
    "dOUReNINEeONEdSEVENeIXdTHREEeWOdZEROjOUBLE DANDAmGAP FILLER-1b2",
    "mHUNDREDS UNIT MARKsLETTER AaAbIbUcBAbHAdCAbHAdDAbDAbHAdHAdEbGAbHAdHAcI",
    "aIcJAbHAdKAbHAdLAcMAcNAbGAcNAcYAdObPAbHAdRAcSAbHAcSAdTAbHAcTAbHAeUaUcVA",
    "bOCALIC LbRaRkYAjNUMBER EIGHTaYgFIFTYdVEdORTYdUReNINEaTYgONEdSEVENaTYgIX",
    "aTYfTENcHIRTYeREEeWENTYeOkSIGN ANUSVARAhVAGRAHAiCANDRABINDUlVIRAMAeSARGA",
    "mVOWEL SIGN AAbIbUcEbIaIcObUaUcVOCALIC LbRaRvWORD SEPARATORxICYCLEbIST",
    "hG REVERSE SOLIDUSpSOLIDUSjKINIeLLED CAPgIARDShOHAZARD SIGNmRD",
    "bTHDAY CAKElSONdTCOIN SIGNjING LIPjLACK BOWTIEgCENTRE WHITE STAR",
    "qHESS BISHOPa ROTATED NINETY DEGREESoTWO HUNDRED SEVENTY DEGREESz",
    "rEQUIHOPPERa ROTATED NINETY DEGREESziKINGa ROTATED NINETY DEGREES",
    "oTWO HUNDRED SEVENTY DEGREESzoNIGHTa ROTATED FORTY-FIVE DEGREES",
    "sNINETY DEGREESoONE HUNDRED THIRTY-FIVE DEGREESz",
    "gTHREE HUNDRED FIFTEEN DEGREESzdWO HUNDRED SEVENTY DEGREES",
    "pTWENTY-FIVE DEGREESzp-BISHOPgQUEENfROOKlPAWNa ROTATED NINETY DEGREES",
    "oTWO HUNDRED SEVENTY DEGREESzpQUEENa ROTATED NINETY DEGREES",
    "oTWO HUNDRED SEVENTY DEGREESzqROOKa ROTATED NINETY DEGREES",
    "oTWO HUNDRED SEVENTY DEGREESzpTURNED BISHOPgKINGdNIGHTgPAWNeQUEENfROOK",
    "qIRCLEa FOR RECORDkWITH DOWN ARROWkTWO WHITE DOTSoWHITE DOT RIGHTz",
    "bLUB SUITiROSS ON SHIELDoURVED DOWNWARDS AND LEFTWARDS ARROW",
    "pRIGHTWARDS ARROWzfLEFTWARDS AND DOWNWARDS ARROWpUPWARDS ARROWz",
    "cRIGHTWARDS AND DOWNWARDS ARROWpUPWARDS ARROWz",
    "dUPWARDS AND LEFTWARDS ARROWpRIGHTWARDS ARROWzkDIAMONDa CENTRED",
    "hMINUS WHITE XnON CROSSiSUITeWITH DOWN ARROWwOWN POINTING BACKHAND INDEX",
    "y-POINTING DOUBLE TRIANGLEpISOSCELES RIGHT TRIANGLEySMALL TRIANGLE",
    "oTRIANGLEsWARDS EQUILATERAL ARROWHEADzfRAUGHTS KINGeMANkOPLEThFLAG",
    "cORETTEhOLDEReUR POINTED STARrHARD SHELL FLOPPY DISKvEARTa SUITiXAGON",
    "gORIZONTAL ELLIPSEqURGLASSjLARGE CIRCLEgSQUARElEFT LANE MERGE",
    "kPOINTING BACKHAND INDEXoINDEXp-POINTING DOUBLE TRIANGLE",
    "a WITH VERTICAL BARziISOSCELES RIGHT TRIANGLEyPOINTERhSMALL TRIANGLE",
    "oTRIANGLEsWARDS BULLETgEQUILATERAL ARROWHEADzfOWER LEFT TRIANGLE",
    "nRIGHT TRIANGLEsZENGEhMEDIUM DIAMONDgOWN-POINTING TRIANGLEa CENTREDz",
    "fLEFT-POINTING TRIANGLEa CENTREDzeOZENGEhRIGHT-POINTING TRIANGLE",
    "a CENTREDzgSMALL DIAMONDhLOZENGEhSQUARElQUAREgUP-POINTING TRIANGLE",
    "a CENTREDzjOON LILITHlNIBdOCTAGONhPARALLELOGRAMmENNANTeTAGONhUSHPIN",
    "hQUESTION MARK ORNAMENTwRECTANGLEiIGHT POINTING BACKHAND INDEXoINDEX",
    "p-POINTING DOUBLE TRIANGLEa WITH VERTICAL BARziISOSCELES RIGHT TRIANGLE",
    "yPENTAGONhOINTERhSMALL TRIANGLEoTRIANGLEa WITH DOUBLE VERTICAL BARz",
    "sWARDS ARROWaHEADjBULLETgEQUILATERAL ARROWHEADzgOSETTEhSAFETY SCISSORS",
    "oCISSORShHOGI PIECEkKULL AND CROSSBONEStLIGHTLY SMALL CIRCLEgSQUARE",
    "uMALL DIAMONDhLOZENGEhSQUAREfTARiILING FACElNOWMANgPADE SUITjQUARE",
    "a BUTTONgCENTREDhFOR STOPoTARdUN WITH RAYSnTELEPHONEiINY DIAMONDhLOZENGE",
    "hSQUAREkOUCHTONE TELEPHONEsRUCKeWO-WAY LEFT WAY TRAFFIC",
    "yUNIVERSAL RECYCLING SYMBOLzaP POINTING BACKHAND INDEX",
    "y-POINTING DOUBLE TRIANGLEpISOSCELES RIGHT TRIANGLEySMALL TRIANGLE",
    "oTRIANGLEsPER LEFT TRIANGLEnRIGHT TRIANGLEsWARDS EQUILATERAL ARROWHEADz",
    "eVERTICAL ELLIPSEhRECTANGLEpY SMALL DIAMONDhLOZENGEhSQUARE",
    "s-FEATHERED NORTH EAST ARROWqRIGHTWARDS ARROWqSOUTH EAST ARROWz",
    "bLETTER CAPITAL CbHbIbRbZtNK SYMBOLkOCK SEXTANT-1a2a3a4a5b6c5a6c6c4a5a6",
    "c6c5a6c6c3a4a5a6c6c56c6c4a5a6c6c5a6c6c2a3a4a5a6c6c5a6c6c4a5a6d5a6c6c3a4",
    "a5a6c6c5a6c6c4a5a6c6c5a6c6mSSOMeWFISHgUE BOOKeHEARTgBERRIESkOAR",
    "cLD EIGHT SPOKED ASTERISKvFIVE SPOKED ASTERISKuGREEK CROSSlSALTIRE",
    "gIX SPOKED ASTERISKtWHITE CIRCLEgSQUAREpMaBcNEcOKaMARKa TABSjScMERANG",
    "hPOMOFO FINAL LETTER GbHbKbPbToLETTER AaHbIaNNdMbNaGbNcUaNNeBaUcCaHcDbE",
    "aEbHbIbNaGbNcRcFbGaHbNbUbWcHbIaHbMbNNaNdRbUcJaIcKaWcLaHcMbNaGaGcNcO",
    "a WITH DOT ABOVEpEbMbNGbNcObUcPbQbRbSaHcTbUaNNdVbXbZaHbIbY",
    "qTTLE WITH POPPING CORKuOM ARC ANTICLOCKWISE ARROWxCURLY BRACKET",
    "nHALF BLACK CIRCLEmINTEGRALiLEFT PARENTHESISqRIGHT PARENTHESIS",
    "wLEFT CORNERfROPeHALF BRACKETrPARENTHESISlRIGHT CORNERfROPeHALF BRACKET",
    "sSQUARE BRACKETa OVER TOP SQUARE BRACKETznTORTOISE SHELL BRACKETzcUQUET",
    "a OF FLOWERSqW AND ARROWkL OF HYGIEIAkWITH SPOONlINGeTIE",
    "a WITH LEFT HALF BLACKpRIGHT HALF BLACKz",
    "bX DRAWINGS DOUBLE DOWN AND HORIZONTALkLEFTeRIGHToHORIZONTAL",
    "kUP AND HORIZONTALkLEFTeRIGHTmVERTICALa AND HORIZONTALkLEFTeRIGHT",
    "xWN DOUBLE AND HORIZONTAL SINGLErLEFT SINGLElRIGHT SINGLE",
    "xHEAVY AND HORIZONTAL LIGHTqLEFT LIGHTfUP LIGHTnRIGHT LIGHTfUP LIGHT",
    "oUP HORIZONTAL LIGHTzeLIGHT AND HORIZONTAL HEAVYqLEFT HEAVYfUP HEAVY",
    "nRIGHT HEAVYfUP HEAVYoUP HORIZONTAL HEAVYzeSINGLE AND HORIZONTAL DOUBLE",
    "rLEFT DOUBLElRIGHT DOUBLEzdHEAVY DOUBLE DASH HORIZONTALkVERTICALsWN",
    "a AND HORIZONTALkLEFTeRIGHToHORIZONTALkLEFTa AND LIGHT RIGHT",
    "uQUADRUPLE DASH HORIZONTALkVERTICALxRIGHTfTRIPLE DASH HORIZONTAL",
    "kVERTICALuUPa AND HORIZONTALkLEFTdIGHT DOWNkRIGHTmVERTICAL",
    "a AND HORIZONTALkLEFTeRIGHTyLEFT DOWN HEAVY AND RIGHT UP LIGHTz",
    "eHEAVY AND RIGHT DOWN LIGHTkUP LIGHTiVERTICAL LIGHTz",
    "fLIGHT AND RIGHT DOWN HEAVYkUP HEAVYiVERTICAL HEAVYz",
    "fUP HEAVY AND RIGHT DOWN LIGHTziIGHT ARC DOWN AND LEFTeRIGHToUP AND LEFT",
    "eRIGHTqDIAGONAL CROSSfDIAMONDhMIDDLE LEFT TO LOWER CENTRE",
    "a TO MIDDLE RIGHTzdUPPER CENTRE TO MIDDLE RIGHTa TO LOWER CENTREzz",
    "cRIGHT TO LOWER CENTREmUPPER CENTRE TO MIDDLE LEFT TO LOWER CENTREzz",
    "jUPPER CENTRE TO MIDDLE LEFTa AND MIDDLE RIGHT TO LOWER CENTREz",
    "hTO LOWER CENTREa TO MIDDLE RIGHTzlRIGHT",
    "a AND MIDDLE LEFT TO LOWER CENTREzgTO LOWER CENTREa TO MIDDLE LEFTzz",
    "dLEFT TO LOWER RIGHTtRIGHT TO LOWER LEFTziOUBLE DASH HORIZONTALkVERTICAL",
    "sWNa AND HORIZONTALkLEFTeRIGHToHORIZONTALa WITH VERTICAL STROKEzgLEFT",
    "a AND HEAVY RIGHTuQUADRUPLE DASH HORIZONTALkVERTICALxRIGHT",
    "fTRIPLE DASH HORIZONTALkVERTICALuUPa AND HEAVY DOWNjORIZONTALkLEFTeRIGHT",
    "mVERTICALa AND HORIZONTALkLEFTeRIGHTyRIGHT DOWN HEAVY AND LEFT UP LIGHTz",
    "dHEAVY AND LEFT DOWN LIGHTkUP LIGHTiVERTICAL LIGHTz",
    "eLIGHT AND LEFT DOWN HEAVYkUP HEAVYiVERTICAL HEAVYz",
    "eUP HEAVY AND LEFT DOWN LIGHTzjUP DOUBLE AND HORIZONTAL SINGLE",
    "rLEFT SINGLElRIGHT SINGLExHEAVY AND DOWN HORIZONTAL LIGHT",
    "vHORIZONTAL LIGHTqLEFT DOWN LIGHTkLIGHTkRIGHT DOWN LIGHTkLIGHT",
    "vLIGHT AND DOWN HORIZONTAL HEAVYvHORIZONTAL HEAVYqLEFT DOWN HEAVYkHEAVY",
    "kRIGHT DOWN HEAVYkHEAVYvSINGLE AND HORIZONTAL DOUBLErLEFT DOUBLE",
    "lRIGHT DOUBLEzbVERTICAL DOUBLE AND HORIZONTAL SINGLErLEFT SINGLE",
    "lRIGHT SINGLExHEAVY AND HORIZONTAL LIGHTqLEFT LIGHTkRIGHT LIGHT",
    "vLIGHT AND HORIZONTAL HEAVYqLEFT HEAVYkRIGHT HEAVY",
    "vSINGLE AND HORIZONTAL DOUBLErLEFT DOUBLElRIGHT DOUBLEzrING GLOVEkY",
    "aS SYMBOLkPHcRAHMI DANDAeIGIT EIGHTfFIVEdOUReNINEeONEdSEVENeIXdTHREEeWO",
    "dZEROjOUBLE DANDAmLETTER AaAbIbUcBAbHAdCAbHAdDAbDAbHAdHAdEbGAbHAdHAcIaI",
    "cJAbHAdKAbHAdLAbLAdMAcNAbGAcNAcYAdOaLD TAMIL LLAbLAeNNNAeRRAdSHORT EbO",
    "rPAbHAdRAcSAbHAcSAdTAbHAcTAbHAeUaUcVAbOCALIC LaLcRaRkYAjNUMBER EIGHTaY",
    "gFIFTYdVEdORTYdUReJOINERgNINEaTYgONEa HUNDREDhTHOUSANDmSEVENaTYgIXaTY",
    "fTENcHIRTYeREEeWENTYeOkPUNCTUATION CRESCENT BARmDOTbUBLE DOTkLINEdOTUS",
    "rSIGN ANUSVARAiCANDRABINDUlJIHVAMULIYAlOLD TAMIL VIRAMAqUPADHMANIYA",
    "lVISARGAmVIRAMAfOWEL SIGN AAbIbUcBHATTIPROLU AAoEbIaIcOaLD TAMIL SHORT E",
    "bOrUaUcVOCALIC LaLcRaRzaILLE PATTERN BLANKfDOTS-1a2a3a4a5a6a7a8c8c7a8c8",
    "c6a7a8c8c7a8c8c5a6a7a8c8c7a8c8c6a7a8c8c7a8c8c4a5a6a7a8c8c7a8c8c6a7a8c8c7",
    "a8c8c5a6a7a8c8c7a8c8c6a7a8c8c7a8c8c3a4a5a6a7a8c8c7a8c8c6a7a8c8c7a8c8c5a6",
    "a7a8c8c7a8c8c6a7a8c8c7a8c8c4a5a6a7a8c8c7a8c8c6a7a8c8c7a8c8c5a6a7a8c8c7a8",
    "c8c6a7a8c8c7a8c8c2a3a4a5a6a7a8c8c7a8c8c6a7a8c8c7a8c8c5a6a7a8c8c7a8c8c6a7",
    "a8c8c7a8c8c4a5a6a7a8c8c7a8c8c6a7a8c8c7a8c8c5a6a7a8c8c7a8c8c6a7a8c8c7a8c8",
    "c3a4a5a6a7a8c8c7a8c8c6a7a8c8c7a8c8c5a6a7a8c8c7a8c8c6a7a8c8c7a8c8c4a5a6a7",
    "a8c8c7a8c8c6a7a8c8c7a8c8c5a6a7a8c8c7a8c8c6a7a8c8c7a8c8sNdEAD",
    "bK PERMITTED HEREqST-FEEDINGlVEdICKcDE WITH VEILlGE AT NIGHTmEFCASEeS",
    "eOCCOLIfKEN BARdCIRCLE WITH NORTHWEST ARROWzcHEARTjOMcWN HEARTkS",
    "bUBBLE TEAeSfCKETeGaINESE END OF SECTIONoLETTER AbBAcCAcDAcGAcHAcJAcKA",
    "cLAcMAbPAdNAbGAbKAdRAcYAbCAePAcRAcSAcTAcVAcYAjPALLAWAhVOWEL SIGN AEcEbI",
    "bObUtHID LETTER AbBAcDAcGAcHAcIbKAcLAcMAcNAbGAdPAcRAcSAcTAcUbWAcYA",
    "jVOWEL SIGN IbUqILDING CONSTRUCTIONtLLETa OPERATORlHORN",
    "a WITH SOUND WAVESvSEYEgRRITOfSa STOPfT IN SILHOUETTEoS IN SILHOUETTE",
    "rTTERaFLYiYTE ORDER MARKnZANTINE MUSICAL SYMBOL AGOGI ARGIbOTERIiGORGI",
    "bOTERIjMESIcTRIAgPOLI ARGIeGORGIpNATRICHISMAkTIKENOKYLISMAhMA",
    "jPESO EKFONITIKONkXO NEOlLIcODERMA ARCHAIONiNEOjSTROFOI SYNDESMOS NEO",
    "nTELOUS ICHIMATOSsSa DIPLIfNEOlTHEMAhRGONbSYNTHETONlKTIKO DIcGAcKEcNIcPA",
    "cVOUdZOkCHAMILIbONgOREVMA ARCHAIONiNEOkROA KLITONgSPATHIgZYGOSlDASEIA",
    "fIARGONeSTOLI APLI MEGALIfIKRIkDIPLIfTHESEOSoESIS APLI DYO DODEKATA",
    "rDIGRAMMOS EX DODEKATAvMONOGRAMMOS TESSERA DODEKATAzdTETARTIMORION",
    "mRIGRAMMOS OKTO DODEKATAvTIMORIONqFTOGGOS OUkGORGON",
    "a PARESTIGMENON ARISTERA ANOdKATOnDEXIAzaRAMMA GGjPLIa ARCHAIONnYO",
    "dEKSTREPTONjLAFRONgNARXIS KAI FTHORA VOUuDOFONONiPEGERMA",
    "hTERON ARGOSYNTHETONnPARAKALESMArXO EKFONITIKONpFANEROSIS DIFONIAS",
    "iMONOFONIASkTETRAFONIASuHTORA SKLIRON CHROMA VASISzbTHORA ARCHAION",
    "a DEYTEROU ICHOUxDIATONIKI DIcKEcNANAdI ANOdKATOhPAcZO",
    "mENARMONIOS ANTIFONIAuI YFESIS TETARTIMORIONwMALAKON CHROMA DIFONIAS",
    "iMONOFONIASzaNAOS ICHOSjENANOgSKLIRON CHROMA SYNAFIgVASISmDIATONON DIz",
    "bGENIKI DIESISgYFESISmORGON ARCHAIONiNEO ANOdKATOiPARESTIGMENON ARISTERA",
    "iDEXIAvSYNTHETONlTHMIKON N APLOUNgDIPLOUNtRONTHISMATAmICHADINgMIDIARGON",
    "hFONONeTHORAbONjSAKIA TELOUS ICHIMATOSvON ARCHAIONiNEOiKATAVA TROMIKON",
    "jSMAgHISTIhENTIMA ARCHAIONiNEO ANOdKATOeMESOjTAa ARCHAIONiNEO ANOdKATO",
    "eMESOrLASMAa ANOdKATOkONTEVMAa ALLOlRONISfUFISMAhRATIMA ALLOdRCHAIONiNEO",
    "eTAdOKOUFISMAiYPORROONnEMASTIhYLISMAhLEIMMA DYO CHRONONlENOS CHRONOU",
    "mIMISEOS CHRONOUpTESSARON CHRONONpRION CHRONONsMOIeYGISMA",
    "hMARTYRIA ALLI DEYTEROS ICHOSoPROTOS ICHOSrDEYTEROS ICHOSoLEGETOS ICHOS",
    "nPLAGIOS ICHOSfTETARTOS ICHOSvROTOS ICHOShVARYS ICHOSqTETARTOS ICHOS",
    "fLEGETOS ICHOSvRIFONIASgTOS ICHOSmVARYS ICHOStIKRON ISONlNANA",
    "eOLIGON ARCHAIONiNEOjMALONfXEIA DIPLIfEKFONITIKONlNEOeI ARCHAION",
    "oYRANISMA ARCHAIONiNEOnPARAKALESMA ARCHAIONiNEOkLITIKIa ARCHAIONiNEO",
    "mICHONhELASTONa NEOkRISPOMENIjTASMAcTIbOKOUFISMAoIASMA ARCHAIONiNEO",
    "jSIFISTOLYGISMAhNa NEOfPARAKALESMAlSYNAGMAmLIbONgRAPISMAgEVMAfSAXIMATA",
    "hEISMAa NEOjIMANSIS ARSEOSa DISIMOUhTETRASIMOUjRISIMOUpTHESEOSa DISIMOU",
    "hTETRASIMOUjRISIMOUyTAVROSa APODEXIAoIGMAeRAGGISMATAlYNAGMA ARCHAION",
    "iMETA STAVROUmNEOiEVMAfRMAaTIKIjTELEIAeSSERAfTRAPLIhHEMAa APLOUN",
    "hTISMOS ESOcXOmS KAI APOTHESoITAeINAGMAgRIAbGORGONgPLIeOMIKOLYGISMA",
    "hN ALLOdRCHAIONiNEOfPARAKALESMAkSIFISTONjSYNAGMAoVAREIA DIPLI",
    "fEKFONITIKONlNEOeI ARCHAIONoTHYfXIRON KLASMAmYFEN ANOdKATO",
    "gSIS APLI DYO DODEKATArDIGRAMMOS EX DODEKATA",
    "vMONOGRAMMOS TESSERA DODEKATAzdTRIGRAMMOS OKTO DODEKATAvTIMORION",
    "rPOKRISISa DIPLImRROIfSILI"]

end Chip8.Text.CharacterName
